import CustomProps.Proofs.Firsts
import CustomProps.Proofs.Written
import CustomProps.Server.Answer

/-!
Three answers about one index. A hover looks for the first declaration of a name, a list of places
gathers all declarations of it, and a completion list keeps one declaration for each name. They
agree: what is shown, what stands first among the places and what is offered for a name come of one
declaration. A completion list leaves no name out, because every declared name starts with two
dashes and can be cut behind as many of them as were typed.
-/

namespace CustomProps

/-- Every declared name starts with two dashes. -/
theorem Text.mark_of_mem_declarations {t : Text} {uri : Uri} {d : Declaration}
    (hd : d ∈ t.declarations uri) : nameMark <+: d.name := by
  rw [declarations_eq] at hd
  obtain ⟨m, hm, hmd⟩ := List.mem_filterMap.1 (Index.firsts_subset _ hd)
  rw [← literalMatches_eq] at hm
  rw [(Match.name_of_declaration? hmd).1]
  exact (isDeclaredName_of_mem_literalMatches hm).mark

namespace Insertion

/-- No more than two dashes are typed in an open call. -/
theorem dashes_of_before? {position : Position} {line : Text} {call : OpenCall}
    (h : OpenCall.before? position line = some call) : call.dashes ≤ 2 := by
  obtain ⟨opening, -, h⟩ := Option.bind_eq_some_iff.1 h
  simp only at h
  split at h
  · rename_i hc
    cases h
    exact (by simpa using hc : _ ∧ _).2
  · cases h

/-- A name may be cut anywhere in its mark. -/
theorem isCut_of_le (rest : Text) {n : Nat} (h : n ≤ 2) :
    Text.isCut (nameMark ++ rest) n = true := by
  have hn : n = 0 ∨ n = 1 ∨ n = 2 := by omega
  rcases hn with rfl | rfl | rfl
  · rfl
  · rfl
  · cases rest <;> rfl

/-- A name with its mark can always be inserted. -/
theorem isSome_resolve? {name : Text} (hn : nameMark <+: name) (cursor : Position)
    (replaced : Range) (line : Text) (propertyLine : Bool) :
    (resolve? name cursor replaced line propertyLine).isSome = true := by
  obtain ⟨rest, rfl⟩ := hn
  rw [resolve?]
  split
  · -- Only an open call cuts a name, and not behind more dashes than the mark has.
    rename_i call hcall
    have hdashes := dashes_of_before? hcall
    have hle : min call.dashes (Text.byteSize (nameMark ++ rest)) ≤ 2 :=
      (Nat.min_le_left _ _).trans hdashes
    have hcut := isCut_of_le rest hle
    simp only [OpenCall.complete?, if_pos hcut]
    split <;> rfl
  · split
    · rfl
    · split <;> rfl

end Insertion

namespace CompletionItem

/-- A declaration is offered by its name, with its value and with what a hover shows of it. -/
structure Offers (item : CompletionItem) (d : Declaration) (swatches : Bool) : Prop where
  label : item.label = d.name
  detail : item.detail = d.value
  documentation : item.documentation = Swatch.preview d.value swatches

theorem exists_build? {d : Declaration} (hn : nameMark <+: d.name) (cursor : CursorLine)
    (swatches : Bool) : ∃ item, build? d cursor swatches = some item ∧ item.Offers d swatches := by
  obtain ⟨insertion, hi⟩ := Option.isSome_iff_exists.1
    (Insertion.isSome_resolve? hn cursor.position cursor.replaced cursor.line cursor.propertyLine)
  rw [build?, hi]
  exact ⟨_, rfl, rfl, rfl, rfl⟩

/-- Every declaration of a list is offered, in the order of the list. -/
theorem map_label_filterMap {ds : List Declaration} (h : ∀ d ∈ ds, nameMark <+: d.name)
    (cursor : CursorLine) (swatches : Bool) :
    (ds.filterMap fun d => build? d cursor swatches).map (·.label) = ds.map (·.name) := by
  induction ds with
  | nil => rfl
  | cons d ds ih =>
    obtain ⟨hd, hds⟩ := List.forall_mem_cons.1 h
    obtain ⟨item, hi, ho⟩ := exists_build? hd cursor swatches
    rw [List.filterMap_cons, hi, List.map_cons, List.map_cons, ho.label, ih hds]

end CompletionItem

namespace Index

theorem mark_of_mem_build {active : Option Source} {sources : Sources} {d : Declaration}
    (hd : d ∈ (build active sources).declarations) : nameMark <+: d.name := by
  obtain ⟨source, -, hd⟩ := List.mem_flatMap.1 hd
  exact Text.mark_of_mem_declarations hd

/-- The names in sight of a document are those in its text and in the sources other than it. -/
theorem mem_map_name_build (uri : Uri) (text : Text) (sources : Sources) (name : Text) :
    name ∈ (build (some ⟨uri, text⟩) sources).declarations.map (·.name) ↔
      (∃ d ∈ text.declarations uri, d.name = name) ∨
      ∃ source ∈ sources, source.uri ≠ uri ∧
        ∃ d ∈ source.text.declarations source.uri, d.name = name := by
  simp only [build, others, Option.toList_some, List.singleton_append, List.flatMap_cons,
    List.map_append, List.mem_append, List.mem_map, List.mem_flatMap, List.mem_filter, bne_iff_ne]
  constructor
  · rintro (h | ⟨d, ⟨source, ⟨hs, hu⟩, hd⟩, hn⟩)
    · exact .inl h
    · exact .inr ⟨source, hs, hu, d, hd, hn⟩
  · rintro (h | ⟨source, hs, hu, d, hd, hn⟩)
    · exact .inl h
    · exact .inr ⟨d, ⟨source, ⟨hs, hu⟩, hd⟩, hn⟩

/-- The declaration that wins for the variable at a position. -/
def resolved? (index : Index) (t : Text) (p : Position) : Option Declaration :=
  (Token.variableAt t p).toOption.bind index.first?

variable {index : Index} {t : Text} {p : Position} {d : Declaration}

theorem name_of_first? {name : Text} (h : index.first? name = some d) : d.name = name := by
  simpa using List.find?_some h

/-- A position resolves to the winner of the name that stands there. -/
theorem resolved?_eq_some_iff :
    index.resolved? t p = some d ↔
      Token.variableAt t p = .ok d.name ∧ index.first? d.name = some d := by
  rw [resolved?, Option.bind_eq_some_iff]
  constructor
  · rintro ⟨name, hv, hf⟩
    rw [name_of_first? hf]
    cases h : Token.variableAt t p with
    | error e => simp [h, Except.toOption] at hv
    | ok n =>
      rw [h] at hv
      cases hv
      exact ⟨rfl, hf⟩
  · rintro ⟨hv, hf⟩
    exact ⟨d.name, by rw [hv]; rfl, hf⟩

theorem isSome_first?_iff {name : Text} :
    (index.first? name).isSome = true ↔ name ∈ index.declarations.map (·.name) := by
  simp [first?, List.find?_isSome]

/-- A position resolves where a declared name stands. -/
theorem isSome_resolved?_iff :
    (index.resolved? t p).isSome = true ↔
      ∃ name ∈ index.declarations.map (·.name), Token.variableAt t p = .ok name := by
  rw [resolved?]
  cases h : Token.variableAt t p with
  | error e => simp [Except.toOption]
  | ok name => simp only [Except.toOption, Option.bind_some, isSome_first?_iff, Except.ok.injEq,
      exists_eq_right']

/-- The winner is the one that is kept for its name. -/
theorem mem_winners_of_first? {name : Text} (h : index.first? name = some d) :
    d ∈ index.winners := by
  rw [first?, ← find?_firsts] at h
  exact List.mem_of_find?_eq_some h

/-- The winner stands first among the declarations of its name. -/
theorem named_eq_cons_of_first? {name : Text} (h : index.first? name = some d) :
    ∃ ds, index.named name = d :: ds := by
  rw [first?_eq_head?] at h
  exact List.head?_eq_some_iff.1 h

/-- A hover shows the winner. -/
theorem toOption_hover (index : Index) (t : Text) (p : Position) (swatches : Bool) :
    (index.hover t p swatches).toOption =
      (index.resolved? t p).map fun d => Swatch.preview d.value swatches := by
  rw [hover, resolved?]
  cases Token.variableAt t p with
  | error e => rfl
  | ok name =>
    simp only [bind, Except.bind, Except.toOption, Option.bind_some]
    cases index.first? name <;> rfl

/-- The places are those of all declarations that have the winner's name. -/
theorem toOption_definitions (index : Index) (t : Text) (p : Position) :
    (index.definitions t p).toOption =
      (index.resolved? t p).map fun d => (index.named d.name).map fun e => ⟨e.uri, e.range⟩ := by
  rw [definitions, resolved?]
  cases Token.variableAt t p with
  | error e => rfl
  | ok name =>
    simp only [bind, Except.bind, Except.toOption, Option.bind_some]
    cases hf : index.first? name with
    | none =>
      rw [first?_eq_head?, List.head?_eq_none_iff] at hf
      rw [hf]
      rfl
    | some d =>
      obtain ⟨ds, hds⟩ := named_eq_cons_of_first? hf
      rw [Option.map_some, name_of_first? hf, hds]
      rfl

end Index

namespace Server

variable {s : Server} {uri : Uri} {doc : Document} {index : Index}

theorem inSight?_eq (hd : s.documents.get? uri = some doc)
    (hl : s.settings.serves doc.language = true) :
    s.inSight? uri = some (doc, Index.build (some ⟨uri, doc.text⟩) s.sources) := by
  simp [inSight?, hd, hl]

theorem eq_build_of_inSight? (h : s.inSight? uri = some (doc, index)) :
    index = Index.build (some ⟨uri, doc.text⟩) s.sources := by
  obtain ⟨doc', -, h⟩ := Option.bind_eq_some_iff.1 h
  split at h
  · cases h
    rfl
  · cases h

theorem hover?_eq (h : s.inSight? uri = some (doc, index)) (p : Position) :
    s.hover? uri p = (index.resolved? doc.text p).map
      fun d => Swatch.preview d.value s.settings.colorPreview := by
  rw [hover?, h, ← Index.toOption_hover]
  rfl

theorem definitions?_eq (h : s.inSight? uri = some (doc, index)) (p : Position) :
    s.definitions? uri p = (index.resolved? doc.text p).map
      fun d => (index.named d.name).map fun e => ⟨e.uri, e.range⟩ := by
  rw [definitions?, h, ← Index.toOption_definitions]
  rfl

/-- What a hover shows is a winner, and its place is the first. -/
theorem exists_first?_of_hover? (h : s.inSight? uri = some (doc, index)) {p : Position}
    {shown : Text} (hshown : s.hover? uri p = some shown) :
    ∃ d, Token.variableAt doc.text p = .ok d.name ∧ index.first? d.name = some d ∧
      Swatch.preview d.value s.settings.colorPreview = shown ∧
      ∃ places, s.definitions? uri p = some (⟨d.uri, d.range⟩ :: places) := by
  rw [hover?_eq h, Option.map_eq_some_iff] at hshown
  obtain ⟨d, hr, hd⟩ := hshown
  obtain ⟨hv, hf⟩ := Index.resolved?_eq_some_iff.1 hr
  obtain ⟨ds, hds⟩ := Index.named_eq_cons_of_first? hf
  refine ⟨d, hv, hf, hd, ds.map fun e => ⟨e.uri, e.range⟩, ?_⟩
  rw [definitions?_eq h, hr, Option.map_some, hds, List.map_cons]

/-- On every line that is there, a completion list offers the winners. -/
theorem exists_completions?_eq (h : s.inSight? uri = some (doc, index)) {q : Position}
    (hq : q.line ≤ doc.text.lastLine) :
    ∃ cursor, s.completions? uri q = some (index.winners.filterMap fun d =>
      CompletionItem.build? d cursor s.settings.colorPreview) := by
  refine ⟨.ofLine (Text.dropReturn (doc.text.lineOf q.line)) q, ?_⟩
  rw [completions?, h]
  simp [CursorLine.ofDocument?, Text.line?_eq, if_pos hq]

/-- In every state, for an open document of a served language, the three answers agree. A hover is
given where places are, and this is where a name in sight stands. On every line that is there the
completion list has one item for each name in sight, in the order of the index. What a hover shows
is the documentation of the name's item, and the first place is that of the same declaration. -/
theorem answers_agree (hd : s.documents.get? uri = some doc)
    (hl : s.settings.serves doc.language = true) :
    let index := Index.build (some ⟨uri, doc.text⟩) s.sources
    let names := index.declarations.map (·.name)
    (∀ p, (s.hover? uri p).isSome = (s.definitions? uri p).isSome ∧
      ((s.hover? uri p).isSome = true ↔ ∃ name ∈ names, Token.variableAt doc.text p = .ok name)) ∧
    ∀ q : Position, q.line ≤ doc.text.lastLine → ∃ items, s.completions? uri q = some items ∧
      (items.map (·.label)).Nodup ∧
      (∀ name, name ∈ items.map (·.label) ↔
        (∃ d ∈ doc.text.declarations uri, d.name = name) ∨
        ∃ source ∈ s.sources, source.uri ≠ uri ∧
          ∃ d ∈ source.text.declarations source.uri, d.name = name) ∧
      (items.map (·.label)).Pairwise (fun m n => names.idxOf m < names.idxOf n) ∧
      ∀ p shown, s.hover? uri p = some shown → ∃ d,
        Token.variableAt doc.text p = .ok d.name ∧ index.first? d.name = some d ∧
        (∃ item ∈ items, item.label = d.name ∧ item.detail = d.value ∧
          item.documentation = shown) ∧
        ∃ places, s.definitions? uri p = some (⟨d.uri, d.range⟩ :: places) := by
  intro index names
  have hsight : s.inSight? uri = some (doc, index) := inSight?_eq hd hl
  refine ⟨?_, ?_⟩
  · intro p
    rw [hover?_eq hsight, definitions?_eq hsight, Option.isSome_map, Option.isSome_map]
    exact ⟨rfl, Index.isSome_resolved?_iff⟩
  · intro q hq
    obtain ⟨cursor, hitems⟩ := exists_completions?_eq hsight hq
    have hmark : ∀ d ∈ index.winners, nameMark <+: d.name := fun d hd =>
      Index.mark_of_mem_build (Index.firsts_subset _ hd)
    have hlabels := CompletionItem.map_label_filterMap hmark cursor s.settings.colorPreview
    refine ⟨_, hitems, ?_, ?_, ?_, ?_⟩
    · rw [hlabels]
      exact Index.nodup_map_name_firsts _
    · intro name
      rw [hlabels, Index.winners, Index.mem_map_name_firsts, Index.mem_map_name_build]
    · rw [hlabels]
      exact Index.pairwise_idxOf_firsts _
    · intro p shown hshown
      obtain ⟨d, hv, hf, rfl, hplaces⟩ := exists_first?_of_hover? hsight hshown
      have hwin : d ∈ index.winners := Index.mem_winners_of_first? hf
      obtain ⟨item, hi, ho⟩ :=
        CompletionItem.exists_build? (hmark d hwin) cursor s.settings.colorPreview
      exact ⟨d, hv, hf, ⟨item, List.mem_filterMap.2 ⟨d, hwin, hi⟩, ho.label, ho.detail,
        ho.documentation⟩, hplaces⟩

end Server

/-! A document that is also a source, with an older text there, and another source that declares one
of its names. -/

namespace Sample

def page : Uri := ⟨"file".toList, some .nobody, "/w/page.ts".toList, none, none⟩

def theme : Uri := ⟨"file".toList, some .nobody, "/w/theme.ts".toList, none, none⟩

def pageText : Text := "css`--a: 1px;\n--b: var(--a);`\n--c".toList

def sharing : Server :=
  { Server.start ⟨none, none, none, true⟩ with
    sources := [⟨page, "'--old: 0'".toList⟩, ⟨theme, "`--c: 3px; --a: 2px`".toList⟩]
    documents := [(page, ⟨pageText, "typescript".toList⟩)]
    phase := .running }

end Sample

namespace Server

theorem answers_agree_of_sample :
    Sample.sharing.documents.get? Sample.page = some ⟨Sample.pageText, "typescript".toList⟩ ∧
    Sample.sharing.settings.serves "typescript".toList = true ∧
    Sample.sharing.hover? Sample.page ⟨1, 12⟩ = some "1px".toList ∧
    Sample.sharing.definitions? Sample.page ⟨1, 12⟩ =
      some [⟨Sample.page, ⟨⟨0, 4⟩, ⟨0, 7⟩⟩⟩, ⟨Sample.theme, ⟨⟨0, 4⟩, ⟨0, 7⟩⟩⟩] ∧
    (∀ p, (Sample.sharing.hover? Sample.page p).isSome =
      (Sample.sharing.definitions? Sample.page p).isSome) ∧
    ∃ items, Sample.sharing.completions? Sample.page ⟨2, 3⟩ = some items ∧
      items.map (·.label) = ["--a".toList, "--b".toList, "--c".toList] ∧
      ∃ item ∈ items, item.label = "--a".toList ∧ item.documentation = "1px".toList := by
  have hd : Sample.sharing.documents.get? Sample.page =
      some ⟨Sample.pageText, "typescript".toList⟩ := by decide
  have hl : Sample.sharing.settings.serves "typescript".toList = true := by decide
  have hshown : Sample.sharing.hover? Sample.page ⟨1, 12⟩ = some "1px".toList := by
    decide +kernel
  obtain ⟨hsame, hlist⟩ := answers_agree hd hl
  obtain ⟨items, hitems, -, -, -, hitem⟩ := hlist ⟨2, 3⟩ (by decide)
  have hlabels : (Sample.sharing.completions? Sample.page ⟨2, 3⟩).map (·.map (·.label)) =
      some ["--a".toList, "--b".toList, "--c".toList] := by decide +kernel
  rw [hitems, Option.map_some, Option.some.injEq] at hlabels
  refine ⟨hd, hl, hshown, by decide +kernel, fun p => (hsame p).1, items, hitems, hlabels, ?_⟩
  obtain ⟨d, hname, -, ⟨item, hi, hlabel, -, hdoc⟩, -⟩ := hitem ⟨1, 12⟩ _ hshown
  have hvar : Token.variableAt Sample.pageText ⟨1, 12⟩ = .ok "--a".toList := by decide +kernel
  rw [hvar, Except.ok.injEq] at hname
  exact ⟨item, hi, hlabel.trans hname.symm, hdoc⟩

end Server

end CustomProps
