import CustomProps.Proofs.NameAlphabet
import CustomProps.Proofs.Priority
import Mathlib.Data.List.Find

/-!
A declaration where it is written. The search for declarations counts the bytes before a name, and a
request counts lines and columns; both lead to the same characters. So a request on a declared name
is answered by the first declaration of that name with a value in the same document, which comes
before all that the sources declare.
-/

namespace CustomProps

namespace Text

/-- A run of one kind of characters is the same in a longer run. -/
theorem takeWhile_takeWhile_of_imp {p q : Char → Bool} (h : ∀ c, p c = true → q c = true)
    (t : Text) : (t.takeWhile q).takeWhile p = t.takeWhile p := by
  have hboth : (fun c => decide (p c = true ∧ q c = true)) = p := by
    funext c
    cases hc : p c with
    | false => simp
    | true => simp [h c hc]
  rw [List.takeWhile_takeWhile, hboth]

theorem trailing_trailing_of_imp {p q : Char → Bool} (h : ∀ c, p c = true → q c = true)
    (t : Text) : trailing p (trailing q t) = trailing p t := by
  rw [trailing, trailing, List.reverse_reverse, takeWhile_takeWhile_of_imp h, trailing]

/-- The carriage return at the end of a line is in no run of other characters. -/
theorem takeWhile_dropReturn {p : Char → Bool} (hp : p '\r' = false) (line : Text) :
    (dropReturn line).takeWhile p = line.takeWhile p := by
  by_cases h : line.getLast? = some '\r'
  · obtain ⟨s, rfl⟩ := List.getLast?_eq_some_iff.1 h
    rw [dropReturn_append, List.takeWhile_append, List.takeWhile_cons_of_neg (by simp [hp])]
    split
    · rename_i hs
      rw [List.append_nil, (List.takeWhile_prefix p).eq_of_length hs]
    · rfl
  · rw [dropReturn_of_getLast? h]

/-- The first match of a name that gives it a value. -/
def firstValued? (t name : Text) : Option Match :=
  t.literalMatches.find? fun m => m.name == name && !(normalValue m.rawValue).isEmpty

end Text

/-- What is not blank around a name stands on its line, with the line's terminator or without. -/
theorem Token.tokenAround_line (x name z : Text) :
    tokenAround (Text.trailing (· != '\n') x) name
        (':' :: Text.dropReturn (z.takeWhile (· != '\n'))) =
      tokenAround x name (':' :: z) := by
  have hfeed : ∀ c, isNonBlank c = true → (c != '\n') = true := by
    intro c hc
    rw [bne_iff_ne]
    rintro rfl
    exact absurd hc (by decide)
  have hcolon : isNonBlank ':' = true := by decide
  rw [tokenAround, tokenAround, Text.trailing_trailing_of_imp hfeed,
    List.takeWhile_cons_of_pos hcolon, List.takeWhile_cons_of_pos hcolon,
    Text.takeWhile_dropReturn (by decide), Text.takeWhile_takeWhile_of_imp hfeed]

namespace Match

/-- The text before the name of a match. -/
def before (t : Text) (m : Match) : Text := t.takeBytes m.position

/-- The text behind the name of a match. -/
def behind (t : Text) (m : Match) : Text := t.dropBytes (m.position + m.name.byteSize)

/-- A match that has a value and whose name is read as it stands: it is in ASCII, no name character
comes right before it, and no call stands in what is not blank around it. -/
structure Stands (t : Text) (m : Match) : Prop where
  mem : m ∈ t.literalMatches
  valued : normalValue m.rawValue ≠ []
  ascii : ∀ c ∈ m.name, c.toNat < 128
  alone : ∀ c ∈ (m.before t).getLast?, Token.isVariableChar c = false
  uncalled : ¬ Token.namedCallMark <:+: Token.tokenAround (m.before t) m.name (m.behind t)

/-- The positions on the name of a match, from its first column to the one behind it. -/
structure Covers (t : Text) (m : Match) (p : Position) : Prop where
  line : p.line = (Text.endOf (m.before t)).line
  starts : (Text.endOf (m.before t)).column ≤ p.column
  stops : p.column ≤ (Text.endOf (m.before t ++ m.name)).column

variable {t : Text} {m : Match} {p : Position}

/-- A match and what stands around it make up the text. -/
theorem eq_append_of_mem (hm : m ∈ t.literalMatches) :
    ∃ x z, t = x ++ (m.name ++ ':' :: z) ∧ m.before t = x ∧ m.behind t = ':' :: z ∧
      '\n' ∉ m.name ∧ m.position = Text.byteSize x := by
  obtain ⟨x, z, ht, hn, hp⟩ := Text.eq_append_of_mem_literalMatches hm
  refine ⟨x, z, ht, ?_, ?_, hn, hp⟩
  · rw [before, hp, ht, Text.takeBytes_append]
  · rw [behind, hp, ht, ← Text.byteSize_append, ← List.append_assoc, Text.dropBytes_append]

theorem Stands.isPlainName (h : m.Stands t) : IsPlainName m.name := by
  refine (Text.isDeclaredName_of_mem_literalMatches h.mem).isPlainName_iff.2 ?_
  intro c hc hf
  have hlt := h.ascii c hc
  rcases eq_of_mem_foldedChars hf with rfl | rfl
  · exact absurd hlt (by decide)
  · exact absurd hlt (by decide)

/-- The name of a match is read at all its positions. -/
theorem Stands.variableAt_eq (h : m.Stands t) (hp : m.Covers t p) :
    Token.variableAt t p = .ok m.name := by
  obtain ⟨hline, hstart, hstop⟩ := hp
  obtain ⟨x, z, rfl, hbefore, hbehind, hn, -⟩ := eq_append_of_mem h.mem
  have hl := Text.line?_count_append x z hn
  have halone := h.alone
  have huncalled := h.uncalled
  rw [hbefore] at hline hstart hstop halone huncalled
  rw [hbehind, ← Token.tokenAround_line] at huncalled
  rw [Text.endOf, Text.trailing_append_of_forall x (Text.forall_bne_of_not_mem hn)] at hstop
  rw [← show p.line = x.count '\n' from hline] at hl
  refine Token.variableAt_of_alone hl h.isPlainName ?_ ?_ huncalled hstart hstop
  · intro c hc
    obtain ⟨y, hx, -⟩ := Text.append_trailing (· != '\n') x
    apply halone c
    rw [hx, List.getLast?_append, hc]
    rfl
  · intro c hc
    cases hc
    decide

/-- A match with a value declares it, on the line where the match stands. -/
theorem declaration?_eq (hm : m ∈ t.literalMatches) (uri : Uri) :
    m.declaration? t uri =
      if normalValue m.rawValue = [] then none
      else some ⟨m.name, normalValue m.rawValue, uri,
        nameRange (Text.endOf (m.before t)).line m.name⟩ := by
  obtain ⟨x, z, ht, hbefore, -, -, hp⟩ := eq_append_of_mem hm
  have hline : (t.utf8.take m.position).count 0x0A = x.count '\n' := by
    rw [hp, ht, Text.take_utf8_append]
    exact Text.count_utf8 (a := '\n') (by decide) x
  rw [declaration?, hline, hbefore, ← Text.normalValue_eq]
  rfl

end Match

namespace Text

variable {t name : Text} {m : Match}

/-- A valued match is the first of its name or comes behind it. -/
theorem exists_firstValued? (hm : m ∈ t.literalMatches) (hv : normalValue m.rawValue ≠ []) :
    ∃ first, t.firstValued? m.name = some first := by
  apply Option.isSome_iff_exists.1
  rw [firstValued?, List.find?_isSome]
  exact ⟨m, hm, by simp [hv]⟩

/-- The first match of a name with a value is what the document declares of the name. -/
theorem declared?_of_firstValued? (h : t.firstValued? name = some m) (uri : Uri) :
    Source.declared? name ⟨uri, t⟩ = some ⟨name, normalValue m.rawValue, uri,
      nameRange (endOf (m.before t)).line name⟩ := by
  have hvalued := List.find?_some h
  simp only [Bool.and_eq_true, beq_iff_eq, Bool.not_eq_true', List.isEmpty_eq_false_iff] at hvalued
  obtain ⟨rfl, hvalue⟩ := hvalued
  have hsame : t.literalMatches.find? (fun e => (e.declaration? t uri).any (·.name == m.name)) =
      t.firstValued? m.name := by
    rw [firstValued?]
    apply List.find?_congr
    intro e he
    rw [Match.declaration?_eq he]
    by_cases hv : normalValue e.rawValue = []
    · simp [hv]
    · simp [hv]
  rw [Source.declared?, written, ← literalMatches_eq, List.find?_filterMap, hsame, h,
    Option.bind_some, Match.declaration?_eq (List.mem_of_find?_eq_some h), if_neg hvalue]

end Text

namespace Server

variable {s : Server} {uri : Uri} {doc : Document}

/-- In every state, a request on a name that is declared in an open document of a served language is
answered by the first declaration of that name with a value in the document: a hover shows its
value, and the first place is on its line. -/
theorem declaration_resolves_to_first (hd : s.documents.get? uri = some doc)
    (hl : s.settings.serves doc.language = true) {m : Match} (hm : m.Stands doc.text)
    {p : Position} (hp : m.Covers doc.text p) :
    ∃ first, doc.text.firstValued? m.name = some first ∧
      s.hover? uri p =
        some (Swatch.preview (normalValue first.rawValue) s.settings.colorPreview) ∧
      ∃ places, s.definitions? uri p =
        some (⟨uri, nameRange (Text.endOf (first.before doc.text)).line m.name⟩ :: places) := by
  obtain ⟨first, hfirst⟩ := Text.exists_firstValued? hm.mem hm.valued
  have hdeclared := Text.declared?_of_firstValued? hfirst uri
  have hwins := Index.first?_build_of_declared? hdeclared s.sources
  have hsight := inSight?_eq hd hl
  have hresolved := Index.resolved?_eq_some_iff (d := ⟨m.name, _, uri, _⟩).2
    ⟨hm.variableAt_eq hp, hwins⟩
  obtain ⟨ds, hds⟩ := Index.named_eq_cons_of_first? hwins
  refine ⟨first, hfirst, ?_, ds.map fun e => ⟨e.uri, e.range⟩, ?_⟩
  · rw [hover?_eq hsight, hresolved, Option.map_some]
  · rw [definitions?_eq hsight, hresolved, Option.map_some, hds, List.map_cons]

end Server

/-! A document whose second declaration of a name stands behind a character of two units, on a line
that ends in a carriage return. The first one has no value, and a source declares the name too. -/

namespace Sample

def cardText : Text := "css`--a: ;\r\n--a: 1px;\r\n😀>--a: 2px;\r\n`".toList

def card : Server :=
  { sharing with documents := [(page, ⟨cardText, "typescript".toList⟩)] }

def cardMatch : Match := ⟨"--a".toList, " 2px".toList, 24, 28⟩

end Sample

namespace Server

theorem declaration_resolves_to_first_of_sample :
    Sample.card.documents.get? Sample.page = some ⟨Sample.cardText, "typescript".toList⟩ ∧
    Sample.card.settings.serves "typescript".toList = true ∧
    Sample.cardMatch.Stands Sample.cardText ∧ Sample.cardMatch.Covers Sample.cardText ⟨2, 6⟩ ∧
    Sample.card.hover? Sample.page ⟨2, 6⟩ = some "1px".toList ∧
    ∃ places, Sample.card.definitions? Sample.page ⟨2, 6⟩ =
      some (⟨Sample.page, ⟨⟨1, 4⟩, ⟨1, 7⟩⟩⟩ :: places) := by
  have hd : Sample.card.documents.get? Sample.page =
      some ⟨Sample.cardText, "typescript".toList⟩ := by decide
  have hl : Sample.card.settings.serves "typescript".toList = true := by decide
  have hascii : Sample.cardMatch.name.all (·.toNat < 128) = true := by decide
  have hlast : (Sample.cardMatch.before Sample.cardText).getLast? = some '>' := by decide +kernel
  have hm : Sample.cardMatch.Stands Sample.cardText :=
    ⟨by decide +kernel, by decide, fun c hc => of_decide_eq_true (List.all_eq_true.1 hascii c hc),
      by rw [hlast]; rintro c ⟨⟩; decide, by decide +kernel⟩
  have hp : Sample.cardMatch.Covers Sample.cardText ⟨2, 6⟩ :=
    ⟨by decide +kernel, by decide +kernel, by decide +kernel⟩
  obtain ⟨first, hfirst, hhover, hplaces⟩ := declaration_resolves_to_first hd hl hm hp
  have hvalued : Sample.cardText.firstValued? "--a".toList =
      some ⟨"--a".toList, " 1px".toList, 8, 12⟩ := by decide +kernel
  obtain rfl := Option.some.inj (hvalued.symm.trans hfirst)
  exact ⟨hd, hl, hm, hp, hhover, hplaces⟩

end Server

end CustomProps
