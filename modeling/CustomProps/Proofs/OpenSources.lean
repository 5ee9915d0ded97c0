import CustomProps.Proofs.Admission

/-!
Open documents among the sources. A source whose document is open stays a source, with the text of
the document, through a scan that finds its file again and through a batch of file events none of
which says that it is deleted. Nothing else keeps it: a scan takes up documents only where it has
found a file, and an event that a file is written passes over open documents, also over one that an
earlier event of the same batch has taken from the sources.
-/

namespace CustomProps

namespace Sources

/-- A new text for one URI leaves the sources of all others. -/
theorem mem_revise_of_ne {sources : Sources} {uri : Uri} {s : Source} (h : s.uri ≠ uri)
    (text : Text) : s ∈ sources.revise uri text ↔ s ∈ sources := by
  induction sources with
  | nil => rfl
  | cons old sources ih =>
    by_cases hu : old.uri = uri
    · have hold : s ≠ old := by
        rintro rfl
        exact h hu
      have hnew : s ≠ { old with text } := by
        rintro rfl
        exact h hu
      rw [revise, if_pos hu, List.mem_cons, List.mem_cons]
      simp [hold, hnew]
    · rw [revise, if_neg hu, List.mem_cons, List.mem_cons, ih]

theorem mem_put_of_ne {sources : Sources} {uri : Uri} {s : Source} (h : s.uri ≠ uri)
    (text : Text) : s ∈ sources.put uri text ↔ s ∈ sources := by
  unfold put
  split
  · exact mem_revise_of_ne h text
  · have hnew : s ≠ ⟨uri, text⟩ := by
      rintro rfl
      exact h rfl
    rw [List.mem_append, List.mem_singleton]
    simp [hnew]

end Sources

namespace Server

variable {s : Server} {uri : Uri} {doc : Document}

theorem mem_reload_of_ne {source : Source} (h : source.uri ≠ uri) (d : Disk) :
    source ∈ (s.reload d uri).sources ↔ source ∈ s.sources := by
  unfold reload
  split
  · exact Sources.mem_put_of_ne h _
  · simp [Sources.mem_drop, h]

/-- An event leaves the source of an open document, unless it says that the file is deleted. -/
theorem mem_fileChanged (ho : s.documents.get? uri = some doc) (d : Disk) (u : Uri)
    (e : FileEvent) (text : Text) :
    ⟨uri, text⟩ ∈ (s.fileChanged d u e).sources ↔
      ⟨uri, text⟩ ∈ s.sources ∧ (uri, FileEvent.deleted) ≠ (u, e) := by
  cases e with
  | deleted => simp [fileChanged, Sources.mem_drop, and_comm]
  | other => simp [fileChanged]
  | written =>
    simp only [fileChanged]
    split
    · rename_i hc
      have hne : uri ≠ u := by
        rintro rfl
        simp [Documents.isOpen, ho] at hc
      rw [mem_reload_of_ne hne]
      simp
    · simp

theorem mem_filesChanged (ho : s.documents.get? uri = some doc) (d : Disk)
    (events : List (Uri × FileEvent)) (text : Text) :
    ⟨uri, text⟩ ∈ (s.filesChanged d events).sources ↔
      ⟨uri, text⟩ ∈ s.sources ∧ (uri, FileEvent.deleted) ∉ events := by
  unfold filesChanged
  induction events generalizing s with
  | nil => simp
  | cons e events ih =>
    have ho' : (s.fileChanged d e.1 e.2).documents.get? uri = some doc := by
      rw [documents_fileChanged, ho]
    rw [List.foldl_cons, ih ho', mem_fileChanged ho, List.mem_cons, not_or, and_assoc]

/-- A scan leaves the source of an open document if it finds a file of that URI. -/
theorem mem_rescan (hdocs : s.documents.Distinct) (ho : s.documents.get? uri = some doc) {d : Disk}
    {f : SourceFilter} {roots : List Path} (hf : SourceFilter.ofSettings s.settings = .ok f)
    (hr : s.folders.map Uri.filePath? = roots.map some) :
    ⟨uri, doc.text⟩ ∈ (s.rescan d).1.sources ↔ ∃ p ∈ Discovery.sources d f roots,
      Uri.ofFilePath? p = some uri ∧ (d.readText? p).isSome = true := by
  have hrun := (Scan.run_eq_ok_iff (d := d)).2 ⟨f, roots, hf, hr, rfl⟩
  rw [rescan_of_ok hrun, overlay_eq_map hdocs (Scan.distinct_run hrun), List.mem_map]
  constructor
  · rintro ⟨source, hs, hl⟩
    obtain ⟨p, hp, hread⟩ := List.mem_filterMap.1 hs
    obtain ⟨ht, hu⟩ := Scan.read?_eq_some_iff.1 hread
    have huri : source.uri = uri := by
      rw [← Sources.uri_live s.documents source, hl]
    exact ⟨p, hp, huri ▸ hu, by simp [ht]⟩
  · rintro ⟨p, hp, hu, ht⟩
    obtain ⟨text, ht⟩ := Option.isSome_iff_exists.1 ht
    have hread : Scan.read? d p = some ⟨uri, text⟩ := Scan.read?_eq_some_iff.2 ⟨ht, hu⟩
    exact ⟨⟨uri, text⟩, List.mem_filterMap.2 ⟨p, hp, hread⟩, by simp [Sources.live, ho]⟩

/-- What keeps a source whose document is open. -/
theorem open_source_stays_iff {options : StartOptions} (h : Reachable options s)
    (ho : s.documents.get? uri = some doc) (hs : s.sources.holds uri = true) (d : Disk) :
    (∀ (n : Notice) (folders : List Uri) (f : SourceFilter) (roots : List Path),
      n.scanned? s = some folders → SourceFilter.ofSettings s.settings = .ok f →
      folders.map Uri.filePath? = roots.map some →
        (⟨uri, doc.text⟩ ∈ (n.run d s).1.sources ↔ ∃ p ∈ Discovery.sources d f roots,
          Uri.ofFilePath? p = some uri ∧ (d.readText? p).isSome = true)) ∧
    ∀ events : List (Uri × FileEvent),
      ⟨uri, doc.text⟩ ∈ ((Notice.files events).run d s).1.sources ↔
        (uri, FileEvent.deleted) ∉ events := by
  have hc := h.coherent
  constructor
  · intro n folders f roots hn hf hr
    rw [Notice.run_of_scanned? hn]
    exact mem_rescan (s := { s with folders }) hc.documents ho hf hr
  · intro events
    have hmem : ⟨uri, doc.text⟩ ∈ s.sources := by
      obtain ⟨source, hm, hu⟩ := List.mem_map.1 ((Sources.holds_iff _ _).1 hs)
      have ht := hc.texts source hm doc (hu ▸ ho)
      rwa [← hu, ← ht]
    rw [Notice.run, mem_filesChanged ho]
    simp [hmem]

end Server

/-! A document of the workspace that is open and a source. -/

namespace Sample

def openedServer : Server := { editedServer with sources := [⟨uri, ['b']⟩] }

theorem reachable_opened : Server.Reachable options openedServer := by
  have h := Server.Reachable.step world (opening "b")
    (.step world setUp (.start : Server.Reachable options _))
  have hs : (((Server.start options).step world setUp).server.step world
      (opening "b")).server = openedServer := by decide +kernel
  rw [hs] at h
  exact h

theorem get?_opened : openedServer.documents.get? uri = some ⟨['b'], "typescript".toList⟩ := by
  decide +kernel

theorem admits_opened : openedServer.settings.admits openedServer.folders uri = true := by
  decide +kernel

/-- The folder of a document that was never saved is empty. -/
theorem scan_empty : Scan.run Disk.empty (Settings.start options) [folder] = .ok ⟨[], []⟩ := by
  obtain ⟨f, roots, hf, hr, -⟩ := Scan.run_eq_ok_iff.1 scan_run
  have hroots : [folder].map Uri.filePath? = [workspace].map some := rfl
  have hentry : Disk.empty.entry? workspace = none := by cbv
  have hsources : Discovery.sources Disk.empty f [workspace] = [] := by
    simp [Discovery.sources, Discovery.below, hentry, Discovery.distinct]
  exact Scan.run_eq_ok_iff.2 ⟨f, [workspace], hf, hroots, by simp [hsources]⟩

theorem ready_empty : ((Notice.ready none).run Disk.empty openedServer).1.sources = [] := by
  have hrun : Scan.run Disk.empty openedServer.settings openedServer.folders = .ok ⟨[], []⟩ :=
    scan_empty
  have hscan : ((Notice.ready none).run Disk.empty openedServer).1 =
      (openedServer.rescan Disk.empty).1 := rfl
  rw [hscan, Server.rescan_of_ok hrun]
  decide

end Sample

namespace Server

theorem open_source_stays_of_sample :
    Sample.openedServer.sources.holds Sample.uri = true ∧
    ⟨Sample.uri, ['b']⟩ ∈ ((Notice.ready none).run Sample.disk Sample.openedServer).1.sources ∧
    ⟨Sample.uri, ['b']⟩ ∈ ((Notice.files [(Sample.otherUri, .deleted),
      (Sample.uri, .written)]).run Sample.disk Sample.openedServer).1.sources := by
  have hs : Sample.openedServer.sources.holds Sample.uri = true := by decide +kernel
  obtain ⟨hscan, hfiles⟩ :=
    open_source_stays_iff Sample.reachable_opened Sample.get?_opened hs Sample.disk
  refine ⟨hs, ?_, (hfiles _).2 (by decide +kernel)⟩
  obtain ⟨f, roots, hf, hr, hsources⟩ := Scan.run_eq_ok_iff.1 Sample.scan_run
  have hmem : ⟨Sample.uri, []⟩ ∈
      (Discovery.sources Sample.disk f roots).filterMap (Scan.read? Sample.disk) := by
    rw [← (Scan.mk.inj hsources).1]
    exact List.mem_singleton_self _
  obtain ⟨p, hp, hread⟩ := List.mem_filterMap.1 hmem
  obtain ⟨ht, hu⟩ := Scan.read?_eq_some_iff.1 hread
  exact (hscan (.ready none) _ f roots rfl hf hr).2 ⟨p, hp, hu, by simp [ht]⟩

/-- That a document is open and its path admitted does not keep it a source: a scan drops one that
is not on the disk, and a batch one that is deleted and written again. -/
theorem open_source_is_lost :
    (¬ ∀ (options : StartOptions) (s : Server) (uri : Uri) (doc : Document) (d : Disk) (n : Notice)
        (folders : List Uri) (scan : Scan), Reachable options s →
      s.documents.get? uri = some doc → s.sources.holds uri = true →
      s.settings.admits s.folders uri = true → n.scanned? s = some folders →
      Scan.run d s.settings folders = .ok scan → s.settings.admits folders uri = true →
        ⟨uri, doc.text⟩ ∈ (n.run d s).1.sources) ∧
    ¬ ∀ (options : StartOptions) (s : Server) (uri : Uri) (doc : Document) (d : Disk)
        (events : List (Uri × FileEvent)), Reachable options s →
      s.documents.get? uri = some doc → s.sources.holds uri = true →
      s.settings.admits s.folders uri = true →
      (events.filter (·.1 == uri)).getLast? = some (uri, .written) →
        ⟨uri, doc.text⟩ ∈ ((Notice.files events).run d s).1.sources := by
  have hs : Sample.openedServer.sources.holds Sample.uri = true := by decide +kernel
  constructor
  · intro h
    have hmem := h _ _ _ _ Disk.empty (.ready none) _ _ Sample.reachable_opened
      Sample.get?_opened hs Sample.admits_opened rfl Sample.scan_empty Sample.admits_opened
    rw [Sample.ready_empty] at hmem
    cases hmem
  · intro h
    have hmem := h _ _ _ _ Disk.empty [(Sample.uri, .deleted), (Sample.uri, .written)]
      Sample.reachable_opened Sample.get?_opened hs Sample.admits_opened (by decide +kernel)
    rw [Notice.run, mem_filesChanged Sample.get?_opened] at hmem
    simp at hmem

end Server

end CustomProps
