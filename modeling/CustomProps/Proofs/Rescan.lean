import CustomProps.Proofs.Places

/-!
What a scan of the workspace leaves. It succeeds when the settings have a filter and every folder
has a path. Then the sources are the files found, in the order in which they are found, each with
the text of its document if that is open and with its own otherwise. The order in which the open
documents are gone through does not matter, because each has a URI of its own. A scan that fails
leaves the server as it is.
-/

namespace CustomProps

namespace Path

theorem isAbsolute_child {dir : Path} (h : isAbsolute dir = true) (name : Bytes) :
    isAbsolute (child dir name) = true := by
  unfold child
  split
  · exact isAbsolute_append h _
  · exact isAbsolute_append h _

end Path

theorem Text.split_ne_nil (sep : Char) (t : Text) : Text.split sep t ≠ [] := by
  cases t with
  | nil => simp [split]
  | cons c t =>
    rw [split]
    split
    · simp
    · split <;> simp

namespace Uri

theorem isAbsolute_of_filePath? {u : Uri} {p : Path} (h : u.filePath? = some p) :
    Path.isAbsolute p = true := by
  unfold filePath? at h
  split at h
  · obtain ⟨segment, rest, hs⟩ :=
      List.exists_cons_of_ne_nil (Text.split_ne_nil '/' (u.path.drop 1))
    rw [hs, List.flatMap_cons, Option.some.injEq] at h
    rw [← h]
    exact isAbsolute_closeDrive rfl
  · cases h

theorem exists_ofFilePath? {p : Path} (h : Path.isAbsolute p = true) :
    ∃ u, ofFilePath? p = some u := by
  rw [ofFilePath?, Path.components, if_pos h]
  cases Path.inner (Path.pieces (p.drop 1)) with
  | nil => exact ⟨_, rfl⟩
  | cons c cs => exact ⟨_, rfl⟩

end Uri

namespace Discovery

theorem distinct_sublist (ps : List Path) : (distinct ps).Sublist ps := by
  induction ps with
  | nil => exact .slnil
  | cons p ps ih => exact (List.filter_sublist.trans ih).cons_cons p

/-- A place that discovery lists is a file that one of the roots reaches. -/
theorem exists_of_mem_sources {d : Disk} {f : SourceFilter} {roots : List Path} {p : Path}
    (h : p ∈ sources d f roots) : ∃ root ∈ roots, ∃ names, Reaches d root names ∧
      p = spelling root names ∧ f.accepts (Path.under [] names) = true := by
  obtain ⟨root, hr, hb⟩ := List.mem_flatMap.1 ((distinct_sublist _).subset h)
  obtain ⟨names, hn, hp, ha, -⟩ := mem_below.1 hb
  exact ⟨root, hr, names, hn, hp, ha⟩

theorem exists_folder_of_root {folders : List Uri} {roots : List Path}
    (hr : folders.map Uri.filePath? = roots.map some) {root : Path} (h : root ∈ roots) :
    ∃ folder ∈ folders, folder.filePath? = some root := by
  have hmem : some root ∈ folders.map Uri.filePath? := by
    rw [hr]
    exact List.mem_map_of_mem h
  exact List.mem_map.1 hmem

theorem isAbsolute_spelling {root : Path} (h : Path.isAbsolute root = true) (names : List Bytes) :
    Path.isAbsolute (spelling root names) = true := by
  unfold spelling
  split
  · exact h
  · exact Path.isAbsolute_child h _

/-- Below folders that have paths every path is absolute. -/
theorem isAbsolute_of_mem_sources {d : Disk} {f : SourceFilter} {folders : List Uri}
    {roots : List Path} (hr : folders.map Uri.filePath? = roots.map some) {p : Path}
    (h : p ∈ sources d f roots) : Path.isAbsolute p = true := by
  obtain ⟨root, hroot, names, -, rfl, -⟩ := exists_of_mem_sources h
  obtain ⟨folder, -, hf⟩ := exists_folder_of_root hr hroot
  exact isAbsolute_spelling (Uri.isAbsolute_of_filePath? hf) names

end Discovery

namespace Scan

/-- Files with absolute paths are read one by one, but for those without a text. -/
theorem forall₂_read? (d : Disk) {files : List Path}
    (h : ∀ p ∈ files, Path.isAbsolute p = true) :
    List.Forall₂ (fun p source => Uri.ofFilePath? p = some source.uri ∧
        d.readText? p = some source.text)
      (files.filter fun p => (d.readText? p).isSome) (files.filterMap (read? d)) := by
  induction files with
  | nil => exact .nil
  | cons p files ih =>
    have hrest := ih fun q hq => h q (List.mem_cons_of_mem p hq)
    obtain ⟨uri, hu⟩ := Uri.exists_ofFilePath? (h p List.mem_cons_self)
    cases ht : d.readText? p with
    | none =>
      have hread : read? d p = none := by simp [read?, ht]
      simpa [hread, ht] using hrest
    | some text =>
      have hread : read? d p = some ⟨uri, text⟩ := read?_eq_some_iff.2 ⟨ht, hu⟩
      rw [List.filter_cons_of_pos (by simp [ht]), List.filterMap_cons_some hread]
      exact .cons ⟨hu, ht⟩ hrest

/-- A scan fails when the settings have no filter or a folder has no path. -/
theorem exists_run_eq_error (d : Disk) {settings : Settings} {folders : List Uri}
    (h : (∀ f, SourceFilter.ofSettings settings ≠ .ok f) ∨
      ∃ folder ∈ folders, folder.filePath? = none) :
    ∃ e, run d settings folders = .error e := by
  cases hrun : run d settings folders with
  | error e => exact ⟨e, rfl⟩
  | ok scan =>
    obtain ⟨f, roots, hf, hr, -⟩ := run_eq_ok_iff.1 hrun
    rcases h with h | ⟨folder, hm, hn⟩
    · exact absurd hf (h f)
    · have hmem : none ∈ roots.map some := by
        rw [← hr, ← hn]
        exact List.mem_map_of_mem hm
      simp at hmem

end Scan

namespace Documents

theorem get?_eq_some_iff {docs : Documents} (h : docs.Distinct) {uri : Uri} {doc : Document} :
    docs.get? uri = some doc ↔ (uri, doc) ∈ docs := by
  induction docs with
  | nil => simp [get?]
  | cons e docs ih =>
    obtain ⟨key, old⟩ := e
    obtain ⟨hk, hd⟩ := List.nodup_cons.1 h
    rw [get?_cons, List.mem_cons, Prod.mk.injEq, ← ih hd]
    by_cases hu : key = uri
    · have hnone : get? docs uri = none := get?_of_not_mem (hu ▸ hk)
      simp [hu, hnone, eq_comm]
    · simp [hu, Ne.symm hu]

/-- Documents in another order are found all the same. -/
theorem get?_of_perm {docs docs' : Documents} (h : docs.Distinct) (hp : docs'.Perm docs)
    (uri : Uri) : docs'.get? uri = docs.get? uri := by
  have h' : docs'.Distinct := (hp.map _).nodup_iff.2 h
  ext doc
  rw [get?_eq_some_iff h, get?_eq_some_iff h', hp.mem_iff]

end Documents

namespace Server

/-- Documents in another order are laid over the sources with the same result. -/
theorem overlay_of_perm {docs docs' : Documents} {sources : Sources} (hd : docs.Distinct)
    (hp : docs'.Perm docs) (hs : sources.Distinct) :
    overlay docs' sources = overlay docs sources := by
  have hd' : docs'.Distinct := (hp.map _).nodup_iff.2 hd
  rw [overlay_eq_map hd hs, overlay_eq_map hd' hs]
  apply List.map_congr_left
  intro s _
  simp only [Sources.live, Documents.get?_of_perm hd hp]

/-- Whether a source stands for a file: it has the URI of the file's path, and the text of its
document if that is open or else the file's own. -/
def StandsFor (d : Disk) (docs : Documents) (p : Path) (source : Source) : Prop :=
  Uri.ofFilePath? p = some source.uri ∧
    some source.text = ((docs.get? source.uri).map (·.text)).or (d.readText? p)

theorem standsFor_live {d : Disk} {p : Path} {source : Source}
    (hu : Uri.ofFilePath? p = some source.uri) (ht : d.readText? p = some source.text)
    (docs : Documents) : StandsFor d docs p (Sources.live docs source) := by
  refine ⟨by rw [Sources.uri_live, hu], ?_⟩
  rw [Sources.uri_live, Sources.live]
  cases docs.get? source.uri with
  | none => simp [ht]
  | some doc => simp

/-- A scan that succeeds replaces the sources by those found, with the documents laid over them. -/
theorem rescan_of_ok {d : Disk} {s : Server} {scan : Scan}
    (h : Scan.run d s.settings s.folders = .ok scan) :
    (s.rescan d).1 = { s with sources := overlay s.documents scan.sources } := by
  rw [rescan, h]

theorem rescan_of_error {d : Disk} {s : Server} {e : ScanError}
    (h : Scan.run d s.settings s.folders = .error e) :
    s.rescan d = (s, [info ["Scanning ".toList, Text.ofNat s.folders.length,
      " workspace folders...".toList],
      .log .error ("Workspace scan failed: ".toList ++ e.message)]) := by
  rw [rescan, h]

/-- After a scan the sources stand for the files found that have a text. -/
theorem forall₂_rescan {d : Disk} {s : Server} (hdocs : s.documents.Distinct) {f : SourceFilter}
    {roots : List Path} (hf : SourceFilter.ofSettings s.settings = .ok f)
    (hr : s.folders.map Uri.filePath? = roots.map some) :
    List.Forall₂ (StandsFor d s.documents)
      ((Discovery.sources d f roots).filter fun p => (d.readText? p).isSome)
      (s.rescan d).1.sources := by
  have hrun := (Scan.run_eq_ok_iff (d := d)).2 ⟨f, roots, hf, hr, rfl⟩
  rw [rescan_of_ok hrun, overlay_eq_map hdocs (Scan.distinct_run hrun), List.forall₂_map_right_iff]
  have habs : ∀ p ∈ Discovery.sources d f roots, Path.isAbsolute p = true :=
    fun p hp => Discovery.isAbsolute_of_mem_sources hr hp
  exact (Scan.forall₂_read? d habs).imp fun p source h => standsFor_live h.1 h.2 s.documents

theorem rescan_of_perm {d : Disk} {s : Server} (hdocs : s.documents.Distinct) {docs : Documents}
    (hp : docs.Perm s.documents) :
    ({ s with documents := docs }.rescan d).1.sources = (s.rescan d).1.sources := by
  cases hrun : Scan.run d s.settings s.folders with
  | ok scan =>
    have hrun' : Scan.run d { s with documents := docs }.settings
        { s with documents := docs }.folders = .ok scan := hrun
    rw [rescan_of_ok hrun, rescan_of_ok hrun']
    exact overlay_of_perm hdocs hp (Scan.distinct_run hrun)
  | error e =>
    have hrun' : Scan.run d { s with documents := docs }.settings
        { s with documents := docs }.folders = .error e := hrun
    rw [rescan_of_error hrun, rescan_of_error hrun']

/-- What a scan leaves. If the settings have a filter and every folder a path, the sources stand, in
the order of discovery, for the files found that have a text; the order of the documents does not
matter, and every file found counts in the progress. Otherwise nothing changes, and all that is sent
is that the scan starts and fails. -/
theorem rescan_outcome (d : Disk) (s : Server) (hdocs : s.documents.Distinct) :
    (∀ f roots, SourceFilter.ofSettings s.settings = .ok f →
      s.folders.map Uri.filePath? = roots.map some →
        List.Forall₂ (StandsFor d s.documents)
          ((Discovery.sources d f roots).filter fun p => (d.readText? p).isSome)
          (s.rescan d).1.sources ∧
        (s.rescan d).1 = { s with sources := (s.rescan d).1.sources } ∧
        (∀ docs, docs.Perm s.documents →
          ({ s with documents := docs }.rescan d).1.sources = (s.rescan d).1.sources) ∧
        ∃ scan, Scan.run d s.settings s.folders = .ok scan ∧
          scan.progress = (List.range (Discovery.sources d f roots).length).map
            fun i => (i + 1, (Discovery.sources d f roots).length)) ∧
    ((∀ f, SourceFilter.ofSettings s.settings ≠ .ok f) ∨
        (∃ folder ∈ s.folders, folder.filePath? = none) →
      ∃ e, Scan.run d s.settings s.folders = .error e ∧
        s.rescan d = (s, [info ["Scanning ".toList, Text.ofNat s.folders.length,
          " workspace folders...".toList],
          .log .error ("Workspace scan failed: ".toList ++ e.message)])) := by
  constructor
  · intro f roots hf hr
    have hrun := (Scan.run_eq_ok_iff (d := d)).2 ⟨f, roots, hf, hr, rfl⟩
    refine ⟨forall₂_rescan hdocs hf hr, by rw [rescan_of_ok hrun], ?_, _, hrun, rfl⟩
    intro docs hp
    exact rescan_of_perm hdocs hp
  · intro h
    obtain ⟨e, he⟩ := Scan.exists_run_eq_error d h
    exact ⟨e, he, rescan_of_error he⟩

end Server

/-- The folders that a notice makes the server scan, if it is one of those that do. -/
def Notice.scanned? (s : Server) : Notice → Option (List Uri)
  | .ready known => some (known.getD s.folders)
  | .folders added removed =>
    some (added.foldl Server.addFolder (s.folders.filter (!removed.contains ·)))
  | .opened _ _ _ | .changed _ _ | .closed _ | .files _ => none

/-- Such a notice first puts the folders in force and then scans them. -/
theorem Notice.run_of_scanned? {n : Notice} {s : Server} {folders : List Uri}
    (h : n.scanned? s = some folders) (d : Disk) :
    (n.run d s).1 = ({ s with folders }.rescan d).1 := by
  cases n with
  | ready known =>
    cases h
    rfl
  | folders added removed =>
    cases h
    rfl
  | opened | changed | closed | files => cases h

/-! A folder with two files of which one is no text, while the other is open. -/

namespace Sample

def brokenName : Bytes := Text.utf8 "b.globals.ts".toList

def mixedDisk : Disk :=
  ⟨.dir [(Text.utf8 "w".toList, .dir [(brokenName, .file [0xFF]), (sourceName, .file [])])]⟩

def brokenPath : Path := Text.utf8 "/w/b.globals.ts".toList

/-- The server that is set up, with a document open. -/
def editedServer : Server :=
  { server [] with documents := [(uri, ⟨['b'], "typescript".toList⟩)] }

theorem sources_mixedDisk {f : SourceFilter} (ha : f.accepts sourceName = true)
    (hb : f.accepts brokenName = true) :
    Discovery.sources mixedDisk f [workspace] = [filePath, brokenPath] := by
  have hentry : mixedDisk.entry? workspace =
      some (.dir [(brokenName, .file [0xFF]), (sourceName, .file [])]) := by cbv
  have hsort : ([(brokenName, [brokenName]), (sourceName, [sourceName])] :
      List (Bytes × List Path)).mergeSort (fun a b => Bytes.le a.1 b.1) =
      [(sourceName, [sourceName]), (brokenName, [brokenName])] := by cbv
  have hbelow : Discovery.below mixedDisk f workspace = [filePath, brokenPath] := by
    simp [Discovery.below, hentry, Discovery.walk, Discovery.walkEntries, Discovery.inOrder,
      Discovery.below.spelled, Node.isDir, Path.child, ha, hb, hsort]
    decide
  rw [Discovery.sources, List.flatMap_cons, List.flatMap_nil, List.append_nil, hbelow]
  decide

end Sample

namespace Server

theorem rescan_outcome_of_sample :
    Sample.editedServer.documents.Distinct ∧
    (Sample.editedServer.rescan Sample.mixedDisk).1.sources = [⟨Sample.uri, ['b']⟩] ∧
    ∃ scan, Scan.run Sample.mixedDisk Sample.editedServer.settings Sample.editedServer.folders =
      .ok scan ∧ scan.progress = [(1, 2), (2, 2)] := by
  have hdocs : Sample.editedServer.documents.Distinct := List.nodup_singleton _
  have haccepts : (SourceFilter.ofSettings Sample.editedServer.settings).toOption.any (fun f =>
      f.accepts Sample.sourceName && f.accepts Sample.brokenName) = true := by decide +kernel
  obtain ⟨f, hf, ha⟩ := SourceFilter.exists_ok_of_any haccepts
  rw [Bool.and_eq_true] at ha
  have hroots : Sample.editedServer.folders.map Uri.filePath? = [Sample.workspace].map some := rfl
  obtain ⟨hall, -, -, hprogress⟩ :=
    (rescan_outcome Sample.mixedDisk Sample.editedServer hdocs).1 f _ hf hroots
  rw [Sample.sources_mixedDisk ha.1 ha.2] at hall hprogress
  have htext : Sample.mixedDisk.readText? Sample.filePath = some [] := by cbv
  have hbroken : Sample.mixedDisk.readText? Sample.brokenPath = none := by cbv
  have huri : Uri.ofFilePath? Sample.filePath = some Sample.uri := by decide +kernel
  rw [List.filter_cons_of_pos (by rw [htext]; rfl), List.filter_cons_of_neg (by rw [hbroken]; simp),
    List.filter_nil] at hall
  refine ⟨hdocs, ?_, hprogress⟩
  generalize (Sample.editedServer.rescan Sample.mixedDisk).1.sources = sources at hall
  cases hall with
  | @cons _ source _ _ hs hrest =>
    cases hrest
    obtain ⟨hu, ht⟩ := hs
    rw [huri, Option.some.injEq] at hu
    have hdoc : Sample.editedServer.documents.get? Sample.uri =
        some ⟨['b'], "typescript".toList⟩ := by decide +kernel
    rw [← hu, hdoc, Option.map_some, Option.some_or, Option.some.injEq] at ht
    rw [hu, show ['b'] = source.text from ht.symm]

end Server

end CustomProps
