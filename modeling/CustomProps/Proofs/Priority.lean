import CustomProps.Proofs.Firsts
import CustomProps.Proofs.Written

/-!
The declarations of a name by the documents that they come from. A document gives a name at most one
declaration, the first that it writes with a value. The active document comes before all sources,
and the sources keep their order. What the active document was when it was last stored as a source
does not count: the index is the same without that copy and with any other text in it.
-/

namespace CustomProps

theorem Text.uri_of_mem_written {t : Text} {uri : Uri} {d : Declaration}
    (hd : d ∈ t.written uri) : d.uri = uri := by
  obtain ⟨m, -, hm⟩ := List.mem_filterMap.1 hd
  simp only [Match.declaration?] at hm
  split at hm
  · cases hm
  · cases hm
    rfl

namespace Source

/-- The declaration that a document has of a name: the first that it writes with a value. -/
def declared? (name : Text) (s : Source) : Option Declaration :=
  (s.text.written s.uri).find? (·.name == name)

variable {s : Source} {name : Text} {d : Declaration}

theorem uri_of_declared? (h : s.declared? name = some d) : d.uri = s.uri :=
  Text.uri_of_mem_written (List.mem_of_find?_eq_some h)

end Source

namespace Index

/-- Where no name comes twice, all declarations of a name are the first one. -/
theorem filter_name_eq_find? {ds : List Declaration} (h : (ds.map (·.name)).Nodup) (name : Text) :
    ds.filter (·.name == name) = (ds.find? (·.name == name)).toList := by
  induction ds with
  | nil => rfl
  | cons d ds ih =>
    obtain ⟨hd, ht⟩ := List.nodup_cons.1 h
    by_cases hn : d.name = name
    · have hrest : ds.filter (·.name == name) = [] := by
        rw [List.filter_eq_nil_iff]
        intro e he hen
        rw [beq_iff_eq] at hen
        exact hd (List.mem_map.2 ⟨e, he, hen.trans hn.symm⟩)
      rw [List.filter_cons_of_pos (by simp [hn]), List.find?_cons_of_pos (by simp [hn]), hrest,
        Option.toList_some]
    · rw [List.filter_cons_of_neg (by simp [hn]), List.find?_cons_of_neg (by simp [hn]), ih ht]

/-- A document has one declaration of a name or none. -/
theorem filter_declarations (s : Source) (name : Text) :
    (s.text.declarations s.uri).filter (·.name == name) = (s.declared? name).toList := by
  rw [Text.declarations_eq, filter_name_eq_find? (nodup_map_name_firsts _), find?_firsts]
  rfl

/-- The declarations of a name are those of the documents in sight, one after the other. -/
theorem named_build (active : Option Source) (sources : Sources) (name : Text) :
    (build active sources).named name =
      (active.toList ++ others active sources).filterMap (Source.declared? name) := by
  rw [named, build, List.filter_flatMap, List.filterMap_eq_flatMap_toList]
  exact List.flatMap_congr fun s _ => filter_declarations s name

theorem first?_build_of_declared? {a : Source} {name : Text} {d : Declaration}
    (h : a.declared? name = some d) (sources : Sources) :
    (build (some a) sources).first? name = some d := by
  rw [first?_eq_head?, named_build, Option.toList_some, List.singleton_append,
    List.filterMap_cons_some h, List.head?_cons]

/-- The documents of the declarations found are documents that were searched, in their order. -/
theorem map_uri_filterMap_declared? (docs : Sources) (name : Text) :
    ((docs.filterMap (Source.declared? name)).map (·.uri)).Sublist (docs.map (·.uri)) := by
  induction docs with
  | nil => exact .slnil
  | cons s docs ih =>
    cases h : s.declared? name with
    | none =>
      rw [List.filterMap_cons_none h, List.map_cons]
      exact ih.cons _
    | some d =>
      rw [List.filterMap_cons_some h, List.map_cons, List.map_cons, Source.uri_of_declared? h]
      exact ih.cons_cons _

theorem uri_not_mem_others (a : Source) (sources : Sources) :
    a.uri ∉ (others (some a) sources).map (·.uri) := by
  simp [others]

theorem others_sublist (active : Option Source) (sources : Sources) :
    (others active sources).Sublist sources := by
  cases active with
  | none => exact .refl _
  | some a => exact List.filter_sublist

/-- No document is in sight twice. -/
theorem nodup_documents (active : Option Source) {sources : Sources}
    (h : (sources.map (·.uri)).Nodup) :
    ((active.toList ++ others active sources).map (·.uri)).Nodup := by
  have ho : ((others active sources).map (·.uri)).Nodup :=
    h.sublist ((others_sublist active sources).map _)
  cases active with
  | none => exact ho
  | some a =>
    rw [Option.toList_some, List.singleton_append, List.map_cons]
    exact List.nodup_cons.2 ⟨uri_not_mem_others a sources, ho⟩

/-- Only the other sources count beside the active document. -/
theorem build_congr {a : Source} {sources sources' : Sources}
    (h : others (some a) sources = others (some a) sources') :
    build (some a) sources = build (some a) sources' := by
  rw [build, build, h]

theorem others_drop (a : Source) (sources : Sources) :
    others (some a) (sources.drop a.uri) = others (some a) sources := by
  simp [others, Sources.drop]

theorem others_revise (a : Source) (text : Text) (sources : Sources) :
    others (some a) (sources.revise a.uri text) = others (some a) sources := by
  simp only [others]
  induction sources with
  | nil => rfl
  | cons s sources ih =>
    by_cases h : s.uri = a.uri
    · simp [Sources.revise, h]
    · simp [Sources.revise, h, ih]

/-- The declarations of a name are at most one for each document, the active document's first and
the others' in the order of the sources. The active document counts with its live text only: its
copy among the sources may be dropped or get any text, and the index stays the same. -/
theorem lookup_by_priority (active : Option Source) {sources : Sources}
    (h : (sources.map (·.uri)).Nodup) :
    (∀ name,
      (build active sources).named name =
        (active.toList ++ others active sources).filterMap (Source.declared? name) ∧
      (((build active sources).named name).map (·.uri)).Nodup) ∧
    ∀ a, active = some a →
      (∀ name d, a.declared? name = some d →
        ((build active sources).named name).head? = some d) ∧
      (∀ name, ∀ d ∈ (build active sources).named name, d.uri = a.uri →
        a.declared? name = some d) ∧
      build active (sources.drop a.uri) = build active sources ∧
      ∀ text, build active (sources.revise a.uri text) = build active sources := by
  refine ⟨?_, ?_⟩
  · intro name
    refine ⟨named_build active sources name, ?_⟩
    rw [named_build]
    exact (nodup_documents active h).sublist (map_uri_filterMap_declared? _ name)
  · rintro a rfl
    refine ⟨?_, ?_, build_congr (others_drop a sources),
      fun text => build_congr (others_revise a text sources)⟩
    · intro name d hd
      rw [← first?_eq_head?]
      exact first?_build_of_declared? hd sources
    · intro name d hd hu
      rw [named_build] at hd
      obtain ⟨s, hs, hsd⟩ := List.mem_filterMap.1 hd
      rcases List.mem_cons.1 hs with rfl | hs
      · exact hsd
      · -- Every other source has another URI, and so has what it declares.
        rw [Source.uri_of_declared? hsd] at hu
        exact absurd (List.mem_map.2 ⟨s, hs, hu⟩) (uri_not_mem_others a sources)

end Index

/-! An active document whose copy among the sources is older and declares other names, between two
sources that share a name with it. -/

namespace Sample

def board : Source :=
  ⟨⟨"file".toList, some .nobody, "/w/board.ts".toList, none, none⟩,
    "css`--a: ;\n--a: 1px; --a: 2px`".toList⟩

def before : Source :=
  ⟨⟨"file".toList, some .nobody, "/w/a.ts".toList, none, none⟩, "'--a: 3px'".toList⟩

def after : Source :=
  ⟨⟨"file".toList, some .nobody, "/w/z.ts".toList, none, none⟩, "'--b: 4px; --a: 5px'".toList⟩

def staleSources : Sources := [before, { board with text := "'--a: 0; --old: 0'".toList }, after]

end Sample

namespace Index

theorem lookup_by_priority_of_sample :
    (Sample.staleSources.map (·.uri)).Nodup ∧
    (((build (some Sample.board) Sample.staleSources).named "--a".toList).map (·.value)) =
      ["1px".toList, "3px".toList, "5px".toList] ∧
    ((build (some Sample.board) Sample.staleSources).named "--a".toList).head? =
      some ⟨"--a".toList, "1px".toList, Sample.board.uri, ⟨⟨1, 4⟩, ⟨1, 7⟩⟩⟩ ∧
    build (some Sample.board) (Sample.staleSources.drop Sample.board.uri) =
      build (some Sample.board) Sample.staleSources := by
  have h : (Sample.staleSources.map (·.uri)).Nodup := by decide
  obtain ⟨hfirst, -, hdrop, -⟩ := (lookup_by_priority (some Sample.board) h).2 _ rfl
  exact ⟨h, by decide +kernel, hfirst _ _ (by decide +kernel), hdrop⟩

end Index

end CustomProps
