import CustomProps.Glob.Set
import CustomProps.Proofs.Utf8

/-!
The language of a glob pattern. Each token stands for a set of byte strings, a sequence of tokens
for what its tokens match one after the other, and braces for what any of their branches matches.
Running a pattern leaves exactly the ends that the language leaves. A pattern seals directories when
what it matches of a directory with its slash goes on to everything below: it ends in a wildcard, or
in something that no slash can stand for.
-/

namespace CustomProps

namespace Glob

mutual

/-- The bytes that a token stands for. -/
def Matches : GlobToken → Bytes → Prop
  | .char c, x => x = Text.utf8 [c]
  | .any, x => ∃ b, x = [b]
  | .star, _ => True
  | .treeStart, x => x = [] ∨ ∃ y, x = y ++ [Path.slash]
  | .treeEnd, x => ∃ y, x = Path.slash :: y
  | .treeMiddle, x => x = [Path.slash] ∨ ∃ y, x = Path.slash :: (y ++ [Path.slash])
  | .oneOf negated ranges, x => ∃ b, x = [b] ∧ (inIntervals (intervals ranges) b != negated) = true
  | .alternatives branches, x =>
    if GlobToken.allVoid branches then x = [] else MatchesAny branches x

/-- What tokens match one after the other. -/
def MatchesAll : List GlobToken → Bytes → Prop
  | [], x => x = []
  | token :: tokens, x => ∃ y z, x = y ++ z ∧ Matches token y ∧ MatchesAll tokens z

/-- What a branch that holds text matches. -/
def MatchesAny : List (List GlobToken) → Bytes → Prop
  | [], _ => False
  | branch :: branches, x =>
    (GlobToken.isVoidBranch branch = false ∧ MatchesAll branch x) ∨ MatchesAny branches x

end

theorem mem_ends {x bs : Bytes} : x ∈ ends bs ↔ ∃ y, y ++ x = bs := by
  induction bs with
  | nil => simp [ends, and_comm]
  | cons b bs ih =>
    rw [ends, List.mem_cons, ih]
    constructor
    · rintro (rfl | ⟨y, rfl⟩)
      · exact ⟨[], rfl⟩
      · exact ⟨b :: y, rfl⟩
    · rintro ⟨y, hy⟩
      cases y with
      | nil => exact .inl hy
      | cons c y =>
        cases hy
        exact .inr ⟨y, rfl⟩

theorem mem_afterSlashes {x bs : Bytes} :
    x ∈ afterSlashes bs ↔ ∃ y, y ++ Path.slash :: x = bs := by
  induction bs with
  | nil => simp [afterSlashes]
  | cons b bs ih =>
    have hcons : (∃ y, y ++ Path.slash :: x = b :: bs) ↔
        (b = Path.slash ∧ x = bs) ∨ ∃ y, y ++ Path.slash :: x = bs := by
      constructor
      · rintro ⟨y, hy⟩
        cases y with
        | nil =>
          cases hy
          exact .inl ⟨rfl, rfl⟩
        | cons c y =>
          cases hy
          exact .inr ⟨y, rfl⟩
      · rintro (⟨rfl, rfl⟩ | ⟨y, rfl⟩)
        · exact ⟨[], rfl⟩
        · exact ⟨b :: y, rfl⟩
    rw [hcons, ← ih, afterSlashes]
    by_cases hb : b = Path.slash
    · simp [hb]
    · simp [hb]

theorem afterSlash?_eq_some_iff {x bs : Bytes} :
    afterSlash? bs = some x ↔ bs = Path.slash :: x := by
  cases bs with
  | nil => simp [afterSlash?]
  | cons b bs => by_cases hb : b = Path.slash <;> simp [afterSlash?, hb]

theorem afterByte?_eq_some_iff {p : UInt8 → Bool} {x bs : Bytes} :
    afterByte? p bs = some x ↔ ∃ b, p b = true ∧ bs = b :: x := by
  cases bs with
  | nil => simp [afterByte?]
  | cons b bs =>
    by_cases hb : p b = true
    · simp [afterByte?, hb]
    · simp [afterByte?, hb]

theorem afterChar?_eq_some_iff {c : Char} {x bs : Bytes} :
    afterChar? c bs = some x ↔ bs = Text.utf8 [c] ++ x := by
  simp only [afterChar?]
  constructor
  · intro h
    split at h
    · rename_i hp
      obtain ⟨y, rfl⟩ := List.isPrefixOf_iff_prefix.1 hp
      rw [List.drop_left, Option.some.injEq] at h
      rw [h]
    · cases h
  · rintro rfl
    have hp : (Text.utf8 [c]).isPrefixOf (Text.utf8 [c] ++ x) = true :=
      List.isPrefixOf_iff_prefix.2 (List.prefix_append _ _)
    rw [if_pos hp, List.drop_left]

mutual

/-- A token leaves what follows the bytes that it stands for. -/
theorem mem_advance (token : GlobToken) (rests : List Bytes) (rest : Bytes) :
    rest ∈ advance token rests ↔ ∃ x, Matches token x ∧ x ++ rest ∈ rests := by
  match token with
  | .char c => simp [advance, Matches, List.mem_filterMap, afterChar?_eq_some_iff]
  | .any =>
    simp only [advance, Matches, List.mem_filterMap, afterByte?_eq_some_iff, true_and]
    constructor
    · rintro ⟨bs, hm, b, rfl⟩
      exact ⟨[b], ⟨b, rfl⟩, hm⟩
    · rintro ⟨x, ⟨b, rfl⟩, hm⟩
      exact ⟨b :: rest, hm, b, rfl⟩
  | .oneOf negated ranges =>
    simp only [advance, Matches, List.mem_filterMap, afterByte?_eq_some_iff]
    constructor
    · rintro ⟨bs, hm, b, hb, rfl⟩
      exact ⟨[b], ⟨b, rfl, hb⟩, hm⟩
    · rintro ⟨x, ⟨b, rfl, hb⟩, hm⟩
      exact ⟨b :: rest, hm, b, hb, rfl⟩
  | .star =>
    simp only [advance, Matches, List.mem_eraseDups, List.mem_flatMap, mem_ends, true_and]
    constructor
    · rintro ⟨bs, hm, y, rfl⟩
      exact ⟨y, hm⟩
    · rintro ⟨y, hm⟩
      exact ⟨y ++ rest, hm, y, rfl⟩
  | .treeStart =>
    simp only [advance, Matches, List.mem_eraseDups, List.mem_flatMap, List.mem_cons,
      mem_afterSlashes]
    constructor
    · rintro ⟨bs, hm, rfl | ⟨y, rfl⟩⟩
      · exact ⟨[], .inl rfl, hm⟩
      · exact ⟨y ++ [Path.slash], .inr ⟨y, rfl⟩, by simpa using hm⟩
    · rintro ⟨x, rfl | ⟨y, rfl⟩, hm⟩
      · exact ⟨rest, hm, .inl rfl⟩
      · exact ⟨_, hm, .inr ⟨y, by simp⟩⟩
  | .treeEnd =>
    simp only [advance, Matches, List.mem_eraseDups, List.mem_flatMap, List.mem_filterMap,
      afterSlash?_eq_some_iff, mem_ends]
    constructor
    · rintro ⟨bs, ⟨_, hm, rfl⟩, y, rfl⟩
      exact ⟨Path.slash :: y, ⟨y, rfl⟩, hm⟩
    · rintro ⟨x, ⟨y, rfl⟩, hm⟩
      exact ⟨y ++ rest, ⟨_, hm, rfl⟩, y, rfl⟩
  | .treeMiddle =>
    simp only [advance, Matches, List.mem_eraseDups, List.mem_flatMap, List.mem_filterMap,
      afterSlash?_eq_some_iff, List.mem_cons, mem_afterSlashes]
    constructor
    · rintro ⟨bs, ⟨_, hm, rfl⟩, rfl | ⟨y, rfl⟩⟩
      · exact ⟨[Path.slash], .inl rfl, hm⟩
      · exact ⟨Path.slash :: (y ++ [Path.slash]), .inr ⟨y, rfl⟩, by simpa using hm⟩
    · rintro ⟨x, rfl | ⟨y, rfl⟩, hm⟩
      · exact ⟨rest, ⟨_, hm, rfl⟩, .inl rfl⟩
      · exact ⟨y ++ Path.slash :: rest, ⟨_, hm, by simp⟩, .inr ⟨y, rfl⟩⟩
  | .alternatives branches =>
    by_cases hv : GlobToken.allVoid branches = true
    · simp [advance, Matches, hv]
    · simp only [advance, Matches, hv, if_false, Bool.false_eq_true, List.mem_eraseDups]
      exact mem_advanceAny branches rests rest

theorem mem_advanceAll (tokens : List GlobToken) (rests : List Bytes) (rest : Bytes) :
    rest ∈ advanceAll tokens rests ↔ ∃ x, MatchesAll tokens x ∧ x ++ rest ∈ rests := by
  match tokens with
  | [] => simp [advanceAll, MatchesAll]
  | token :: tokens =>
    rw [advanceAll, mem_advanceAll tokens]
    simp only [mem_advance token, MatchesAll]
    constructor
    · rintro ⟨z, hz, y, hy, hm⟩
      exact ⟨y ++ z, ⟨y, z, rfl, hy, hz⟩, by simpa using hm⟩
    · rintro ⟨x, ⟨y, z, rfl, hy, hz⟩, hm⟩
      exact ⟨z, hz, y, hy, by simpa using hm⟩

theorem mem_advanceAny (branches : List (List GlobToken)) (rests : List Bytes) (rest : Bytes) :
    rest ∈ advanceAny branches rests ↔ ∃ x, MatchesAny branches x ∧ x ++ rest ∈ rests := by
  match branches with
  | [] => simp [advanceAny, MatchesAny]
  | branch :: branches =>
    have hbranch : rest ∈ (if GlobToken.isVoidBranch branch then [] else advanceAll branch rests) ↔
        ∃ x, (GlobToken.isVoidBranch branch = false ∧ MatchesAll branch x) ∧
          x ++ rest ∈ rests := by
      by_cases hv : GlobToken.isVoidBranch branch = true
      · simp [hv]
      · simp [hv, mem_advanceAll branch]
    rw [advanceAny, List.mem_append, hbranch, mem_advanceAny branches]
    simp only [MatchesAny, or_and_right, exists_or]

end

/-- A pattern takes up the bytes of its language and no others. -/
theorem covers_iff {tokens : List GlobToken} {bs : Bytes} :
    covers tokens bs = true ↔ MatchesAll tokens bs := by
  have hempty : covers tokens bs = true ↔ [] ∈ advanceAll tokens [bs] := by
    simp [covers, List.any_eq_true]
  rw [hempty, mem_advanceAll]
  simp

theorem matchesAll_append {ts us : List GlobToken} {x : Bytes} :
    MatchesAll (ts ++ us) x ↔ ∃ y z, x = y ++ z ∧ MatchesAll ts y ∧ MatchesAll us z := by
  induction ts generalizing x with
  | nil => simp [MatchesAll]
  | cons t ts ih =>
    simp only [List.cons_append, MatchesAll, ih]
    constructor
    · rintro ⟨y, -, rfl, hy, z, w, rfl, hz, hw⟩
      exact ⟨y ++ z, w, by simp, ⟨y, z, rfl, hy, hz⟩, hw⟩
    · rintro ⟨-, w, rfl, ⟨y, z, rfl, hy, hz⟩, hw⟩
      exact ⟨y, z ++ w, by simp, hy, z, w, rfl, hz, hw⟩

mutual

/-- Whether what a token matches goes on with anything, or ends in something other than a slash. -/
def tokenSeals : GlobToken → Bool
  | .star | .treeEnd => true
  | .char c => c != '/'
  | .oneOf negated ranges => inIntervals (intervals ranges) Path.slash == negated
  | .alternatives branches => !GlobToken.allVoid branches && branchesSeal branches
  | .any | .treeStart | .treeMiddle => false

/-- Whether the last token seals. -/
def tokensSeal : List GlobToken → Bool
  | [] => false
  | token :: tokens => if tokens.isEmpty then tokenSeals token else tokensSeal tokens

/-- Whether every branch that holds text seals. -/
def branchesSeal : List (List GlobToken) → Bool
  | [] => true
  | branch :: branches =>
    (GlobToken.isVoidBranch branch || tokensSeal branch) && branchesSeal branches

end

/-- Whether a pattern that matches a directory with its slash matches all that is below. A pattern
without tokens matches no directory, and one of a single directory wildcard matches all paths. -/
def sealsDirs (g : Glob) : Bool :=
  match g.tokens with
  | [] | [.treeStart] => true
  | tokens => tokensSeal tokens

/-- Whether a set of byte strings goes on from `x` with anything, or `x` ends in no slash. -/
def Sealed (L : Bytes → Prop) (x : Bytes) : Prop :=
  (∀ r, L (x ++ r)) ∨ ∃ b ∈ x.getLast?, b ≠ Path.slash

theorem Sealed.imp {L L' : Bytes → Prop} {x : Bytes} (h : Sealed L x) (hL : ∀ y, L y → L' y) :
    Sealed L' x := by
  rcases h with hr | hb
  · exact .inl fun r => hL _ (hr r)
  · exact .inr hb

/-- A character other than a slash ends in another byte. -/
theorem getLast?_utf8_ne_slash {c : Char} (hc : c ≠ '/') :
    ∃ b ∈ (Text.utf8 [c]).getLast?, b ≠ Path.slash := by
  have hne : (Text.utf8 [c]).getLast? ≠ some Path.slash := by
    intro h
    have hl := (Text.getLast?_utf8 (a := '/') (by decide) [c]).1 h
    rw [List.getLast?_singleton, Option.some.injEq] at hl
    exact hc hl
  cases hl : (Text.utf8 [c]).getLast? with
  | none =>
    rw [List.getLast?_eq_none_iff, Text.utf8_cons, List.append_eq_nil_iff] at hl
    exact absurd hl.1 String.utf8EncodeChar_ne_nil
  | some b =>
    refine ⟨b, rfl, ?_⟩
    rintro rfl
    exact hne hl

mutual

theorem sealed_of_tokenSeals (token : GlobToken) (h : tokenSeals token = true) {x : Bytes}
    (hx : Matches token x) : Sealed (Matches token) x := by
  match token with
  | .star =>
    left
    intro r
    trivial
  | .treeEnd =>
    obtain ⟨y, rfl⟩ := hx
    exact .inl fun r => ⟨y ++ r, rfl⟩
  | .char c =>
    right
    rw [Matches] at hx
    rw [hx]
    exact getLast?_utf8_ne_slash (by simpa [tokenSeals] using h)
  | .oneOf negated ranges =>
    obtain ⟨b, rfl, hb⟩ := hx
    refine .inr ⟨b, rfl, ?_⟩
    rintro rfl
    rw [tokenSeals, beq_iff_eq] at h
    simp [h] at hb
  | .alternatives branches =>
    rw [tokenSeals, Bool.and_eq_true, Bool.not_eq_true'] at h
    simp only [Matches, h.1, Bool.false_eq_true, if_false] at hx
    apply (sealed_of_branchesSeal branches h.2 hx).imp
    intro y hy
    simpa only [Matches, h.1, Bool.false_eq_true, if_false] using hy
  | .any => cases h
  | .treeStart => cases h
  | .treeMiddle => cases h

theorem sealed_of_tokensSeal (tokens : List GlobToken) (h : tokensSeal tokens = true) {x : Bytes}
    (hx : MatchesAll tokens x) : Sealed (MatchesAll tokens) x := by
  match tokens with
  | [] => cases h
  | token :: tokens =>
    obtain ⟨y, z, rfl, hy, hz⟩ := hx
    by_cases ht : tokens.isEmpty = true
    · rw [tokensSeal, if_pos ht] at h
      rw [List.isEmpty_iff] at ht
      subst ht
      rw [MatchesAll] at hz
      rw [hz, List.append_nil]
      apply (sealed_of_tokenSeals token h hy).imp
      intro w hw
      exact ⟨w, [], (List.append_nil w).symm, hw, rfl⟩
    · rw [tokensSeal, if_neg ht] at h
      rcases sealed_of_tokensSeal tokens h hz with hr | ⟨b, hb, hne⟩
      · left
        intro r
        exact ⟨y, z ++ r, List.append_assoc y z r, hy, hr r⟩
      · refine .inr ⟨b, ?_, hne⟩
        rw [List.getLast?_append, hb]
        rfl

theorem sealed_of_branchesSeal (branches : List (List GlobToken))
    (h : branchesSeal branches = true) {x : Bytes} (hx : MatchesAny branches x) :
    Sealed (MatchesAny branches) x := by
  match branches with
  | [] => cases hx
  | branch :: branches =>
    rw [branchesSeal, Bool.and_eq_true, Bool.or_eq_true] at h
    rcases hx with ⟨hv, hx⟩ | hx
    · have hs : tokensSeal branch = true := by simpa [hv] using h.1
      exact (sealed_of_tokensSeal branch hs hx).imp fun y hy => .inl ⟨hv, hy⟩
    · exact (sealed_of_branchesSeal branches h.2 hx).imp fun y hy => .inr hy

end

theorem exists_char_of_chars? {tokens : List GlobToken} {text : Text}
    (h : chars? tokens = some text) (hn : tokens ≠ []) :
    ∃ init c, tokens = init ++ [.char c] := by
  induction tokens generalizing text with
  | nil => exact absurd rfl hn
  | cons token tokens ih =>
    cases token with
    | char c =>
      rw [chars?, Option.map_eq_some_iff] at h
      obtain ⟨rest, hr, -⟩ := h
      by_cases ht : tokens = []
      · exact ⟨[], c, by rw [ht]; rfl⟩
      · obtain ⟨init, d, he⟩ := ih hr ht
        exact ⟨.char c :: init, d, by rw [he]; rfl⟩
    | _ => cases h

theorem exists_char_of_isPlain {p : Char → Bool} {tokens : List GlobToken}
    (h : isPlain p tokens = true) : ∃ init c, tokens = init ++ [.char c] := by
  unfold isPlain at h
  split at h
  · rename_i text ht
    apply exists_char_of_chars? ht
    rintro rfl
    cases ht
    cases h
  · cases h

theorem exists_char_of_isExtension {tokens : List GlobToken} (h : isExtension tokens = true) :
    ∃ init c, tokens = init ++ [.char c] := by
  have hafter : ∃ init, tokens = init ++ afterTree tokens := by
    unfold afterTree
    split
    · exact ⟨[.treeStart], rfl⟩
    · exact ⟨[], rfl⟩
  obtain ⟨tree, he⟩ := hafter
  unfold isExtension at h
  split at h
  · rename_i rest hr
    obtain ⟨name, hname, -⟩ := (Option.any_eq_true _ _).1 h
    rw [he, hr]
    by_cases hn : rest = []
    · exact ⟨tree ++ [.star], '.', by simp [hn]⟩
    · obtain ⟨init, c, hi⟩ := exists_char_of_chars? hname hn
      exact ⟨tree ++ .star :: .char '.' :: init, c, by simp [hi]⟩
  · cases h

theorem exists_char_of_endsInExtension {tokens : List GlobToken}
    (h : endsInExtension tokens = true) : ∃ init c, tokens = init ++ [.char c] := by
  unfold endsInExtension at h
  cases hr : tokens.reverse with
  | nil =>
    rw [hr] at h
    cases h
  | cons token rest =>
    rw [hr] at h
    cases token with
    | char c => exact ⟨rest.reverse, c, by rw [← tokens.reverse_reverse, hr, List.reverse_cons]⟩
    | _ => cases h

/-- A pattern that is looked up by file name or extension ends in a character. -/
theorem exists_char_of_needsName {tokens : List GlobToken}
    (h : (kind tokens).needsName = true) : ∃ init c, tokens = init ++ [.char c] := by
  by_cases hf : isFileName tokens = true
  · unfold isFileName at hf
    split at hf
    · obtain ⟨init, c, he⟩ := exists_char_of_isPlain hf
      exact ⟨.treeStart :: init, c, by rw [he]; rfl⟩
    · cases hf
  · by_cases hx : isExtension tokens = true
    · exact exists_char_of_isExtension hx
    · apply exists_char_of_endsInExtension
      by_contra hc
      simp only [kind, hf, hx, hc, Bool.false_eq_true, ↓reduceIte] at h
      split_ifs at h <;> cases h

theorem tokensSeal_append_singleton (init : List GlobToken) (token : GlobToken) :
    tokensSeal (init ++ [token]) = tokenSeals token := by
  induction init with
  | nil => rfl
  | cons t init ih => simpa [tokensSeal] using ih

/-- Tokens that seal and match a directory with its slash match all that is below. -/
theorem covers_below {tokens : List GlobToken} (h : tokensSeal tokens = true) {dir : Bytes}
    (hd : covers tokens (dir ++ [Path.slash]) = true) (rest : Bytes) :
    covers tokens (dir ++ Path.slash :: rest) = true := by
  rcases sealed_of_tokensSeal tokens h (covers_iff.1 hd) with hr | ⟨b, hb, hne⟩
  · rw [covers_iff]
    simpa using hr rest
  · rw [List.getLast?_concat] at hb
    cases hb
    exact absurd rfl hne

/-- Tokens that end in a character and seal match no directory with its slash. -/
theorem not_covers_of_char {init : List GlobToken} {c : Char}
    (h : tokensSeal (init ++ [.char c]) = true) (dir : Bytes) :
    covers (init ++ [.char c]) (dir ++ [Path.slash]) = false := by
  rw [tokensSeal_append_singleton, tokenSeals, bne_iff_ne] at h
  rw [Bool.eq_false_iff]
  intro hd
  obtain ⟨y, z, he, -, w, v, rfl, hw, hv⟩ := matchesAll_append.1 (covers_iff.1 hd)
  rw [Matches] at hw
  rw [MatchesAll] at hv
  obtain ⟨b, hb, hne⟩ := getLast?_utf8_ne_slash h
  have hl := congrArg List.getLast? he
  rw [hw, hv, List.append_nil, List.getLast?_concat, List.getLast?_append, hb] at hl
  cases hl
  exact hne rfl

/-- A pattern that seals directories and matches one with its slash matches all that is below. -/
theorem accepts_below {g : Glob} (h : g.sealsDirs = true) {dir : Bytes}
    (hd : g.accepts (dir ++ [Path.slash]) = true) (rest : Bytes) :
    g.accepts (dir ++ Path.slash :: rest) = true := by
  unfold accepts at hd ⊢
  split at hd
  · rfl
  · rename_i hne
    have hs : tokensSeal g.tokens = true := by
      unfold sealsDirs at h
      split at h
      · rename_i he
        rw [he] at hd
        simp [covers, advanceAll] at hd
      · exact absurd ‹_› hne
      · exact h
    rw [Bool.and_eq_true] at hd
    -- A pattern that looks at the file name would end in a character other than the slash.
    have hk : (kind g.tokens).needsName = false := by
      rw [Bool.eq_false_iff]
      intro hk
      obtain ⟨init, c, he⟩ := exists_char_of_needsName hk
      rw [he] at hs hd
      rw [not_covers_of_char hs] at hd
      cases hd.2
    rw [hk]
    exact covers_below hs hd.2 rest

end Glob

end CustomProps
