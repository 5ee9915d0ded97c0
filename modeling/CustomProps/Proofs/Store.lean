import CustomProps.Proofs.Documents
import CustomProps.Proofs.FileUri

/-!
The sources and the open documents agree. A source is known by its URI: no two sources have the same
one, because a scan lists a place once and places have URIs of their own. A source that is open has
the text of its document, whatever opened, changed, closed, reloaded or scanned it.
-/

namespace CustomProps

namespace Sources

/-- No URI has two sources. -/
def Distinct (sources : Sources) : Prop := (sources.map (·.uri)).Nodup

/-- Where URIs are distinct, a new text goes to the source of its URI and to no other. -/
theorem revise_eq_map {sources : Sources} (h : sources.Distinct) (uri : Uri) (text : Text) :
    sources.revise uri text =
      sources.map fun s => if s.uri = uri then { s with text } else s := by
  induction sources with
  | nil => rfl
  | cons s sources ih =>
    obtain ⟨hs, ht⟩ := List.nodup_cons.1 h
    by_cases hu : s.uri = uri
    · have hkeep : ∀ s' ∈ sources, (if s'.uri = uri then { s' with text } else s') = s' := by
        intro s' hs'
        have hne : s'.uri ≠ uri := by
          intro he
          apply hs
          simp only [hu, ← he]
          exact List.mem_map_of_mem hs'
        rw [if_neg hne]
      rw [revise, if_pos hu, List.map_cons, if_pos hu, List.map_congr_left hkeep, List.map_id']
    · rw [revise, if_neg hu, List.map_cons, if_neg hu, ih ht]

theorem Distinct.revise {sources : Sources} (h : sources.Distinct) (uri : Uri) (text : Text) :
    (sources.revise uri text).Distinct := by
  rw [Distinct, map_uri_revise]
  exact h

theorem Distinct.put {sources : Sources} (h : sources.Distinct) (uri : Uri) (text : Text) :
    (sources.put uri text).Distinct := by
  unfold Sources.put
  split
  · exact h.revise uri text
  · rename_i hh
    rw [holds_iff] at hh
    rw [Distinct, List.map_append]
    refine List.nodup_append.2 ⟨h, by simp, ?_⟩
    intro a ha b hb he
    rw [List.map_singleton, List.mem_singleton] at hb
    rw [he, hb] at ha
    exact hh ha

theorem Distinct.drop {sources : Sources} (h : sources.Distinct) (uri : Uri) :
    (sources.drop uri).Distinct :=
  List.Nodup.sublist (List.filter_sublist.map _) h

/-- A source after a text was put is the one that was put, or was there before under another URI. -/
theorem mem_put {sources : Sources} (h : sources.Distinct) {uri : Uri} {text : Text} {s : Source}
    (hs : s ∈ sources.put uri text) : s = ⟨uri, text⟩ ∨ s.uri ≠ uri ∧ s ∈ sources := by
  unfold Sources.put at hs
  split at hs
  · rw [revise_eq_map h] at hs
    obtain ⟨old, ho, rfl⟩ := List.mem_map.1 hs
    by_cases hu : old.uri = uri
    · left
      simp [hu]
    · right
      rw [if_neg hu]
      exact ⟨hu, ho⟩
  · rename_i hh
    rcases List.mem_append.1 hs with ho | hn
    · right
      refine ⟨fun he => hh ?_, ho⟩
      rw [holds_iff, ← he]
      exact List.mem_map_of_mem ho
    · exact .inl (List.mem_singleton.1 hn)

theorem mem_drop {sources : Sources} {uri : Uri} {s : Source} :
    s ∈ sources.drop uri ↔ s.uri ≠ uri ∧ s ∈ sources := by
  simp [drop, and_comm]

/-- A source with the text of its document, if that is open. -/
def live (docs : Documents) (s : Source) : Source :=
  match docs.get? s.uri with
  | some doc => { s with text := doc.text }
  | none => s

@[simp] theorem uri_live (docs : Documents) (s : Source) : (live docs s).uri = s.uri := by
  unfold live
  split <;> rfl

theorem text_live {docs : Documents} {s : Source} {doc : Document}
    (h : docs.get? s.uri = some doc) : (live docs s).text = doc.text := by
  simp [live, h]

theorem Distinct.live {sources : Sources} (h : sources.Distinct) (docs : Documents) :
    Distinct (sources.map (live docs)) := by
  have hu : (sources.map (Sources.live docs)).map (·.uri) = sources.map (·.uri) := by
    simp [Function.comp_def]
  rw [Distinct, hu]
  exact h

end Sources

namespace Discovery

/-- No place is listed twice. -/
theorem pairwise_distinct (ps : List Path) :
    (distinct ps).Pairwise fun p q => Path.same p q = false := by
  induction ps with
  | nil => exact .nil
  | cons p ps ih =>
    refine .cons ?_ (ih.sublist List.filter_sublist)
    intro q hq
    simpa using (List.mem_filter.1 hq).2

end Discovery

namespace Scan

/-- A file is read when it has a text, under the URI of its path. -/
theorem read?_eq_some_iff {d : Disk} {p : Path} {s : Source} :
    read? d p = some s ↔ d.readText? p = some s.text ∧ Uri.ofFilePath? p = some s.uri := by
  simp only [read?, Option.bind_eq_bind, Option.bind_eq_some_iff, Option.pure_def,
    Option.some.injEq]
  constructor
  · rintro ⟨text, ht, uri, hu, rfl⟩
    exact ⟨ht, hu⟩
  · rintro ⟨ht, hu⟩
    exact ⟨s.text, ht, s.uri, hu, rfl⟩

/-- Folders have roots when each of them has a path. -/
theorem mapM_root_eq_ok_iff {folders : List Uri} {roots : List Path} :
    folders.mapM root = .ok roots ↔ folders.map Uri.filePath? = roots.map some := by
  induction folders generalizing roots with
  | nil => cases roots <;> simp [pure, Except.pure]
  | cons folder folders ih =>
    rw [List.mapM_cons, List.map_cons, root]
    cases folder.filePath? with
    | none => cases roots <;> simp [bind, Except.bind]
    | some p =>
      simp only [bind, Except.bind]
      cases roots with
      | nil => cases folders.mapM root <;> simp [pure, Except.pure]
      | cons q roots =>
        rw [List.map_cons, List.cons.injEq, ← ih]
        cases folders.mapM root <;> simp [pure, Except.pure]

/-- The turns put the sources of the files that can be read behind those that are there. -/
theorem sources_readAll (d : Disk) (total i : Nat) (s : Scan) (files : List Path) :
    (readAll d total i s files).sources = s.sources ++ files.filterMap (read? d) := by
  induction files generalizing i s with
  | nil => exact (List.append_nil _).symm
  | cons p files ih =>
    rw [readAll, ih, sources_turn, List.append_assoc]
    cases h : read? d p with
    | none => rw [List.filterMap_cons_none h]; rfl
    | some source => rw [List.filterMap_cons_some h]; rfl

/-- The turns tell every file once, in order, whether or not it can be read. -/
theorem progress_readAll (d : Disk) (total i : Nat) (s : Scan) (files : List Path) :
    (readAll d total i s files).progress =
      s.progress ++ (List.range' i files.length).map fun j => (j + 1, total) := by
  induction files generalizing i s with
  | nil => exact (List.append_nil _).symm
  | cons p files ih =>
    rw [readAll, ih, progress_turn, List.append_assoc, List.length_cons, List.range'_succ,
      List.map_cons]
    rfl

/-- From the start, the turns keep the sources of the files that can be read and tell each file. -/
theorem readAll_start (d : Disk) (files : List Path) :
    readAll d files.length 0 start files =
      ⟨files.filterMap (read? d), (List.range files.length).map fun i => (i + 1, files.length)⟩ := by
  rw [List.range_eq_range']
  exact Scan.ext (sources_readAll d _ 0 start files) (progress_readAll d _ 0 start files)

/-- A scan succeeds when the settings have a filter and every folder has a path. It then reads the
files found, as far as they can be read, and tells each of them. -/
theorem run_eq_ok_iff {d : Disk} {settings : Settings} {folders : List Uri} {scan : Scan} :
    run d settings folders = .ok scan ↔ ∃ filter roots,
      SourceFilter.ofSettings settings = .ok filter ∧
      folders.map Uri.filePath? = roots.map some ∧
      scan = ⟨(Discovery.sources d filter roots).filterMap (read? d),
        (List.range (Discovery.sources d filter roots).length).map
          fun i => (i + 1, (Discovery.sources d filter roots).length)⟩ := by
  simp only [run, readAll_start, bind, Except.bind, ← mapM_root_eq_ok_iff]
  cases SourceFilter.ofSettings settings with
  | error e => simp
  | ok filter =>
    cases folders.mapM root with
    | error e => simp
    | ok roots => simp [pure, Except.pure, eq_comm]

/-- Files at different places are read under different URIs. -/
theorem uri_ne_of_read? {d : Disk} {p q : Path} (h : Path.same p q = false) {a b : Source}
    (ha : read? d p = some a) (hb : read? d q = some b) : a.uri ≠ b.uri := by
  intro he
  have hp := Uri.components_of_ofFilePath? (read?_eq_some_iff.1 ha).2
  have hq := Uri.components_of_ofFilePath? (read?_eq_some_iff.1 hb).2
  rw [← he, ← hp] at hq
  simp [Path.same, hq] at h

/-- A scan finds each source once. -/
theorem distinct_run {d : Disk} {settings : Settings} {folders : List Uri} {scan : Scan}
    (h : run d settings folders = .ok scan) : scan.sources.Distinct := by
  obtain ⟨filter, roots, -, -, rfl⟩ := run_eq_ok_iff.1 h
  rw [Sources.Distinct, List.Nodup, List.pairwise_map, List.pairwise_filterMap]
  exact (Discovery.pairwise_distinct _).imp fun hn a ha b hb => uri_ne_of_read? hn ha hb

end Scan

namespace Server

/-- Overlaying gives every source the text of its document, if that is open. -/
theorem overlay_eq_map {docs : Documents} {sources : Sources} (hd : docs.Distinct)
    (hs : sources.Distinct) : overlay docs sources = sources.map (Sources.live docs) := by
  induction docs generalizing sources with
  | nil => exact (List.map_id' sources).symm
  | cons e docs ih =>
    obtain ⟨uri, doc⟩ := e
    obtain ⟨hu, hd⟩ := List.nodup_cons.1 hd
    have hfold : overlay ((uri, doc) :: docs) sources =
        overlay docs (sources.revise uri doc.text) := rfl
    rw [hfold, ih hd (hs.revise uri doc.text), Sources.revise_eq_map hs, List.map_map]
    apply List.map_congr_left
    intro s _
    -- The document at the head is the only one of its URI, so no later one covers its text again.
    by_cases he : s.uri = uri
    · simp [Sources.live, Documents.get?_cons, he, Documents.get?_of_not_mem hu]
    · simp [Sources.live, Documents.get?_cons, he, Ne.symm he]

/-- Sources and documents have a URI each, and a source that is open has its document's text. -/
structure Coherent (s : Server) : Prop where
  documents : s.documents.Distinct
  sources : s.sources.Distinct
  texts : ∀ source ∈ s.sources, ∀ doc, s.documents.get? source.uri = some doc →
    source.text = doc.text

theorem coherent_start (options : StartOptions) : (start options).Coherent where
  documents := .nil
  sources := .nil
  texts := by
    intro source hs
    cases hs

/-- A document put under its URI, its text noted: where the text is not noted there is no source to
hold an older one. -/
theorem Coherent.noteText {s : Server} (h : s.Coherent) (uri : Uri) (doc : Document) :
    ({ s with documents := s.documents.put uri doc }.noteText uri doc.text).Coherent := by
  have hother : ∀ source ∈ s.sources, source.uri ≠ uri → ∀ doc',
      (s.documents.put uri doc).get? source.uri = some doc' → source.text = doc'.text := by
    intro source hs hne doc' hd
    rw [Documents.get?_put_of_ne _ _ hne] at hd
    exact h.texts source hs doc' hd
  unfold Server.noteText
  split
  · refine ⟨h.documents.put uri doc, h.sources.put uri doc.text, ?_⟩
    intro source hs doc' hd
    rcases Sources.mem_put h.sources hs with rfl | ⟨hne, hold⟩
    · rw [Documents.get?_put_self] at hd
      cases hd
      rfl
    · exact hother source hold hne doc' hd
  · rename_i hl
    refine ⟨h.documents.put uri doc, h.sources, ?_⟩
    intro source hs doc' hd
    have hne : source.uri ≠ uri := by
      intro he
      have hh : s.sources.holds uri = true := by
        rw [Sources.holds_iff, ← he]
        exact List.mem_map_of_mem hs
      simp [isLookupFile, hh] at hl
    exact hother source hs hne doc' hd

/-- A source that is read again while its document is not open. -/
theorem Coherent.reload {s : Server} (h : s.Coherent) (d : Disk) {uri : Uri}
    (hc : s.documents.get? uri = none) : (s.reload d uri).Coherent := by
  unfold Server.reload
  split
  · refine ⟨h.documents, h.sources.put _ _, ?_⟩
    intro source hs doc hd
    rcases Sources.mem_put h.sources hs with rfl | ⟨-, hold⟩
    · rw [hc] at hd
      cases hd
    · exact h.texts source hold doc hd
  · refine ⟨h.documents, h.sources.drop uri, ?_⟩
    intro source hs doc hd
    exact h.texts source (Sources.mem_drop.1 hs).2 doc hd

theorem Coherent.opened {s : Server} (h : s.Coherent) (uri : Uri) (language text : Text) :
    (s.opened uri language text).Coherent :=
  h.noteText uri ⟨text, language⟩

theorem Coherent.changed {s : Server} (h : s.Coherent) (uri : Uri) (changes : List Change) :
    (s.changed uri changes).Coherent := by
  unfold Server.changed
  split
  · exact h.noteText uri _
  · exact h

theorem Coherent.closed {s : Server} (h : s.Coherent) (d : Disk) (uri : Uri) :
    (s.closed d uri).Coherent := by
  have hclosed : Coherent { s with documents := s.documents.close uri } := by
    refine ⟨h.documents.close uri, h.sources, ?_⟩
    intro source hs doc hd
    by_cases hu : source.uri = uri
    · rw [hu, Documents.get?_close_self] at hd
      cases hd
    · rw [Documents.get?_close_of_ne _ hu] at hd
      exact h.texts source hs doc hd
  unfold Server.closed
  simp only
  split
  · exact hclosed.reload d (Documents.get?_close_self s.documents uri)
  · exact hclosed

theorem Coherent.fileChanged {s : Server} (h : s.Coherent) (d : Disk) (uri : Uri)
    (e : FileEvent) : (s.fileChanged d uri e).Coherent := by
  cases e with
  | deleted =>
    refine ⟨h.documents, h.sources.drop uri, ?_⟩
    intro source hs doc hd
    exact h.texts source (Sources.mem_drop.1 hs).2 doc hd
  | other => exact h
  | written =>
    unfold Server.fileChanged
    simp only
    split
    · rename_i hn
      have hc : s.documents.get? uri = none := by
        simp only [Documents.isOpen, Bool.and_eq_true, Bool.not_eq_true',
          Option.isSome_eq_false_iff, Option.isNone_iff_eq_none] at hn
        exact hn.1
      exact h.reload d hc
    · exact h

theorem Coherent.filesChanged {s : Server} (h : s.Coherent) (d : Disk)
    (events : List (Uri × FileEvent)) : (s.filesChanged d events).Coherent := by
  unfold Server.filesChanged
  induction events generalizing s with
  | nil => exact h
  | cons e events ih => exact ih (h.fileChanged d e.1 e.2)

/-- A scan brings new sources, and each of them takes the text of its document if that is open. -/
theorem Coherent.rescan {s : Server} (h : s.Coherent) (d : Disk) : (s.rescan d).1.Coherent := by
  unfold Server.rescan
  simp only
  split
  · rename_i scan hrun
    have hs := Scan.distinct_run hrun
    rw [overlay_eq_map h.documents hs]
    refine ⟨h.documents, hs.live s.documents, ?_⟩
    intro source hm doc hd
    obtain ⟨found, -, rfl⟩ := List.mem_map.1 hm
    rw [Sources.uri_live] at hd
    exact Sources.text_live hd
  · exact h

theorem Coherent.withFolders {s : Server} (h : s.Coherent) (folders : List Uri) :
    Coherent { s with folders } := ⟨h.documents, h.sources, h.texts⟩

/-- One notice keeps sources and documents coherent. -/
theorem Coherent.run {s : Server} (h : s.Coherent) (d : Disk) (n : Notice) :
    (n.run d s).1.Coherent := by
  cases n with
  | ready known => exact (h.withFolders (known.getD s.folders)).rescan d
  | opened uri language text => exact h.opened uri language text
  | changed uri changes => exact h.changed uri changes
  | closed uri => exact h.closed d uri
  | files events => exact h.filesChanged d events
  | folders added removed => exact (h.withFolders _).rescan d

theorem Coherent.idles {s t : Server} (h : s.Coherent) (hi : Idles s t) : t.Coherent := by
  constructor
  · rw [hi.documents]
    exact h.documents
  · rw [hi.sources]
    exact h.sources
  · rw [hi.documents, hi.sources]
    exact h.texts

/-- In every reachable state the sources have distinct URIs, and a source that is open has the text
of its document. -/
theorem reachable_sources_agree {options : StartOptions} {s : Server} (h : Reachable options s) :
    (s.sources.map (·.uri)).Nodup ∧
    ∀ source ∈ s.sources, ∀ doc, s.documents.get? source.uri = some doc →
      source.text = doc.text := by
  have hc : s.Coherent := by
    apply h.invariant
    · exact coherent_start options
    · exact fun d s n hs => hs.run d n
    · exact fun s t hs hi => hs.idles hi
  exact ⟨hc.sources, hc.texts⟩

/-- A source of the workspace that was opened. -/
theorem sources_agree_of_sample :
    ∃ s, Reachable Sample.options s ∧ s.sources = [⟨Sample.uri, ['b']⟩] ∧
      s.documents.isOpen Sample.uri = true ∧ (s.sources.map (·.uri)).Nodup ∧
      ∀ source ∈ s.sources, ∀ doc, s.documents.get? source.uri = some doc →
        source.text = doc.text := by
  have h : Reachable Sample.options _ :=
    .step Sample.world (Sample.opening "b") (.step Sample.world Sample.setUp .start)
  exact ⟨_, h, by decide +kernel, by decide +kernel, reachable_sources_agree h⟩

end Server

end CustomProps
