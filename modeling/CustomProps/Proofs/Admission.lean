import CustomProps.Proofs.Rescan

/-!
Which folders admit a source. A file that a scan finds below a folder is admitted by that folder,
for its URI leads back to a path that lies below the folder at the very names by which the walk came
to the file. Files that are opened, changed or written become sources only where the folders of the
time admit them. A scan that fails keeps the sources but not the folders, so a source may be left
that only folders of an earlier time admit.
-/

namespace CustomProps

namespace Path

/-- Whether bytes can name an entry inside a path: no slash divides them, and they count. -/
def IsEntry (name : Bytes) : Prop := slash ∉ name ∧ isIdle name = false

instance (name : Bytes) : Decidable (IsEntry name) :=
  inferInstanceAs (Decidable (slash ∉ name ∧ isIdle name = false))

theorem IsEntry.isName {name : Bytes} (h : IsEntry name) : IsName name := by
  refine ⟨?_, h.1⟩
  rintro rfl
  exact absurd h.2 (by decide)

theorem isEntry_of_mem_trail {p : Path} {piece : Bytes} (h : piece ∈ trail p) : IsEntry piece :=
  ⟨slash_not_mem_trail h, isIdle_of_mem_trail h⟩

theorem under_eq_join {names : List Bytes} (h : ∀ name ∈ names, IsEntry name) :
    under [] names = join names := by
  cases names with
  | nil => rfl
  | cons name names =>
    have hname := (h name List.mem_cons_self).isName
    have hl : name.getLast? ≠ some slash := hname.getLast?_append []
    rw [under_cons, join_cons, ← under_eq_append hname.1 hl fun n hn =>
      (h n (List.mem_cons_of_mem _ hn)).isName]
    rfl

/-- A path below a directory adds its pieces to those of the directory. -/
theorem trail_child {dir : Path} (h : isAbsolute dir = true) (p : Path) :
    trail (child dir p) = trail dir ++ (pieces p).filter (!isIdle ·) := by
  obtain ⟨rest, rfl⟩ := List.head?_eq_some_iff.1 (by simpa [isAbsolute] using h)
  unfold child
  split
  · rename_i hl
    have hlast : (slash :: rest).getLast? = some slash := by simpa using hl
    -- The slash at the end of the directory stands between its pieces and those of the path.
    rcases List.eq_nil_or_concat rest with rfl | ⟨front, last, rfl⟩
    · simp [trail, pieces, isIdle]
    · rw [List.concat_eq_append, ← List.cons_append, List.getLast?_concat,
        Option.some.injEq] at hlast
      simp [trail, hlast, pieces_append, pieces, isIdle]
  · simp [trail, pieces_append]

/-- The pieces of a path that is joined and closed are those joined, and idle ones behind them. -/
theorem exists_pieces_closeDrive {ps : List Bytes} (h : ∀ piece ∈ ps, slash ∉ piece) :
    ∃ tail, (∀ piece ∈ tail, isIdle piece = true) ∧
      pieces ((Uri.closeDrive (slash :: join ps)).drop 1) = ps ++ tail := by
  by_cases hn : ps = []
  · exact ⟨[[]], by simp [isIdle], by rw [hn]; decide⟩
  · have hp := pieces_join hn h
    unfold Uri.closeDrive
    split
    · split
      · refine ⟨[[]], by simp [isIdle], ?_⟩
        rw [List.cons_append, List.drop_succ_cons, List.drop_zero, pieces_append, hp]
        rfl
      · exact ⟨[], by simp, by simpa using hp⟩
    · exact ⟨[], by simp, by simpa using hp⟩

theorem dropPieces_append {ps : List Bytes} (h : ∀ piece ∈ ps, isIdle piece = false)
    (qs : List Bytes) : dropPieces ps.length (ps ++ qs) = dropPieces 0 qs := by
  induction ps with
  | nil => rfl
  | cons piece ps ih =>
    have hp := h piece List.mem_cons_self
    rw [List.length_cons, List.cons_append, dropPieces, if_neg (by simp [hp])]
    exact ih fun q hq => h q (List.mem_cons_of_mem _ hq)

/-- Idle pieces at the end do not count. -/
theorem trimPieces_dropPieces {ps tail : List Bytes} (h : ∀ piece ∈ ps, isIdle piece = false)
    (ht : ∀ piece ∈ tail, isIdle piece = true) : trimPieces (dropPieces 0 (ps ++ tail)) = ps := by
  cases ps with
  | nil =>
    have hnil : dropPieces 0 tail = [] := by
      induction tail with
      | nil => rfl
      | cons piece tail ih =>
        rw [dropPieces, if_pos (ht piece List.mem_cons_self)]
        exact ih fun q hq => ht q (List.mem_cons_of_mem _ hq)
    rw [List.nil_append, hnil]
    rfl
  | cons piece ps =>
    have hp := h piece List.mem_cons_self
    have hkeep : dropPieces 0 (piece :: ps ++ tail) = piece :: ps ++ tail := by
      rw [List.cons_append, dropPieces, if_neg (by simp [hp])]
    have hrev : ((piece :: ps).reverse).dropWhile isIdle = (piece :: ps).reverse := by
      cases hr : (piece :: ps).reverse with
      | nil => rfl
      | cons b bs =>
        have hb : b ∈ piece :: ps := by
          rw [← List.mem_reverse, hr]
          exact List.mem_cons_self
        rw [List.dropWhile_cons_of_neg (by simp [h b hb])]
    rw [hkeep, trimPieces, List.reverse_append, List.dropWhile_append_of_pos (by simpa using ht),
      hrev, List.reverse_reverse]

/-- A path that goes on from the pieces of a root lies below the root, at the pieces added. -/
theorem below?_closeDrive {root : Path} (hr : isAbsolute root = true) {names : List Bytes}
    (h : ∀ name ∈ names, IsEntry name) :
    below? root (Uri.closeDrive (slash :: join (trail root ++ names))) = some (join names) := by
  have hall : ∀ piece ∈ trail root ++ names, IsEntry piece := by
    intro piece hp
    rcases List.mem_append.1 hp with hp | hp
    · exact isEntry_of_mem_trail hp
    · exact h piece hp
  have habs : isAbsolute (slash :: join (trail root ++ names)) = true := rfl
  have hcomponents : components (Uri.closeDrive (slash :: join (trail root ++ names))) =
      .root :: ((trail root).map componentOf ++ names.map componentOf) := by
    rw [components_of_isAbsolute (Uri.isAbsolute_closeDrive habs), Uri.trail_closeDrive habs,
      trail_join hall, List.map_append]
  obtain ⟨tail, ht, hp⟩ := exists_pieces_closeDrive fun piece hm => (hall piece hm).1
  have hknown := components_of_isAbsolute hr
  rw [below?, hcomponents, hknown]
  simp only
  rw [if_pos (by simp [List.isPrefixOf_iff_prefix]), hp, List.length_map, List.append_assoc,
    dropPieces_append fun piece hm => isIdle_of_mem_trail hm,
    trimPieces_dropPieces (fun piece hm => (h piece hm).2) ht]

end Path

/-- Whether the entries of a disk have names as paths hold them. -/
def Disk.Orderly (d : Disk) : Prop := d.root.Names Path.IsEntry

namespace Discovery

theorem isEntry_of_reaches {d : Disk} (hd : d.Orderly) {root : Path} {names : List Bytes}
    (h : Reaches d root names) : ∀ name ∈ names, Path.IsEntry name := by
  obtain ⟨tree, content, hs, hh⟩ := h
  exact names_of_start? hd hs names _ hh

theorem trail_spelling {root : Path} (hr : Path.isAbsolute root = true) {names : List Bytes}
    (h : ∀ name ∈ names, Path.IsEntry name) :
    Path.trail (spelling root names) = Path.trail root ++ names := by
  cases names with
  | nil => simp [spelling]
  | cons name names =>
    have hpieces := Path.pieces_join (List.cons_ne_nil name names) fun n hn => (h n hn).1
    have hkeep : (name :: names).filter (!Path.isIdle ·) = name :: names := by
      rw [List.filter_eq_self]
      intro n hn
      simp [(h n hn).2]
    rw [spelling, if_neg (by simp), Path.trail_child hr, Path.under_eq_join h, hpieces, hkeep]

/-- The URI of a file found below a root leads to a path that lies below the root at the names of
the file. -/
theorem exists_below? {d : Disk} (hd : d.Orderly) {root : Path}
    (hr : Path.isAbsolute root = true) {names : List Bytes} (h : Reaches d root names) {uri : Uri}
    (hu : Uri.ofFilePath? (spelling root names) = some uri) :
    ∃ p, uri.filePath? = some p ∧ Path.below? root p = some (Path.under [] names) := by
  have hnames := isEntry_of_reaches hd h
  refine ⟨_, Uri.filePath?_ofFilePath? hu, ?_⟩
  rw [trail_spelling hr hnames, Path.under_eq_join hnames]
  exact Path.below?_closeDrive hr hnames

end Discovery

/-- Whether the settings make the file of a URI a source below one of the folders. -/
def Settings.admits (settings : Settings) (folders : List Uri) (uri : Uri) : Bool :=
  match uri.filePath?, SourceFilter.ofSettings settings with
  | some p, .ok filter => filter.acceptsUnder p (folders.filterMap Uri.filePath?)
  | _, _ => false

/-- The folders that were scanned admit every source that the scan brings. -/
theorem Scan.spelled_admits {d : Disk} (hd : d.Orderly) {settings : Settings} {folders : List Uri}
    {scan : Scan} (h : run d settings folders = .ok scan) :
    scan.sources.Spelled fun uri => settings.admits folders uri = true := by
  obtain ⟨f, roots, hf, hr, rfl⟩ := run_eq_ok_iff.1 h
  intro uri hu
  obtain ⟨source, hs, rfl⟩ := List.mem_map.1 hu
  obtain ⟨p, hp, hread⟩ := List.mem_filterMap.1 hs
  obtain ⟨root, hroot, names, hn, rfl, ha⟩ := Discovery.exists_of_mem_sources hp
  obtain ⟨folder, hfolder, hpath⟩ := Discovery.exists_folder_of_root hr hroot
  obtain ⟨q, hq, hbelow⟩ := Discovery.exists_below? hd (Uri.isAbsolute_of_filePath? hpath) hn
    (read?_eq_some_iff.1 hread).2
  have hin : root ∈ folders.filterMap Uri.filePath? := List.mem_filterMap.2 ⟨folder, hfolder, hpath⟩
  simp only [Settings.admits, hq, hf, SourceFilter.acceptsUnder]
  exact List.any_eq_true.2 ⟨root, hin, by simp [hbelow, ha]⟩

namespace Server

/-- A source is looked up as such, and else by the folders of the time. -/
theorem isLookupFile_eq (s : Server) (uri : Uri) :
    s.isLookupFile uri = (s.sources.holds uri || s.settings.admits s.folders uri) := rfl

/-- States that have settings, folders and phase in common. -/
structure Beside (s t : Server) : Prop where
  settings : t.settings = s.settings
  folders : t.folders = s.folders
  phase : t.phase = s.phase

theorem Beside.refl (s : Server) : Beside s s := ⟨rfl, rfl, rfl⟩

theorem Beside.trans {s t u : Server} (h : Beside s t) (h' : Beside t u) : Beside s u :=
  ⟨h'.settings.trans h.settings, h'.folders.trans h.folders, h'.phase.trans h.phase⟩

theorem beside_noteText (s : Server) (uri : Uri) (text : Text) :
    Beside s (s.noteText uri text) := by
  unfold noteText
  split <;> exact ⟨rfl, rfl, rfl⟩

theorem beside_reload (d : Disk) (s : Server) (uri : Uri) : Beside s (s.reload d uri) := by
  unfold reload
  split <;> exact ⟨rfl, rfl, rfl⟩

theorem beside_fileChanged (d : Disk) (s : Server) (uri : Uri) (e : FileEvent) :
    Beside s (s.fileChanged d uri e) := by
  cases e with
  | deleted => exact ⟨rfl, rfl, rfl⟩
  | other => exact .refl s
  | written =>
    simp only [fileChanged]
    split
    · exact beside_reload d s uri
    · exact .refl s

theorem beside_filesChanged (d : Disk) (s : Server) (events : List (Uri × FileEvent)) :
    Beside s (s.filesChanged d events) := by
  unfold filesChanged
  induction events generalizing s with
  | nil => exact .refl s
  | cons e events ih => exact (beside_fileChanged d s e.1 e.2).trans (ih _)

/-- A notice that scans nothing touches neither settings nor folders. -/
theorem beside_run {n : Notice} {s : Server} (h : n.scanned? s = none) (d : Disk) :
    Beside s (n.run d s).1 := by
  have hdocs : ∀ docs, Beside s { s with documents := docs } := fun _ => ⟨rfl, rfl, rfl⟩
  cases n with
  | ready | folders => cases h
  | opened uri language text => exact (hdocs _).trans (beside_noteText _ uri text)
  | changed uri changes =>
    simp only [Notice.run, changed]
    split
    · exact (hdocs _).trans (beside_noteText _ uri _)
    · exact .refl s
  | closed uri =>
    simp only [Notice.run, closed]
    split
    · exact (hdocs _).trans (beside_reload d _ uri)
    · exact hdocs _
  | files events => exact beside_filesChanged d s events

/-! What the folders of the time admit, and what the sources have already, stays a property of the
sources. -/

section Spelled

variable {P : Uri → Prop} {s : Server}

theorem spelled_of_isLookupFile (h : s.sources.Spelled P)
    (hP : ∀ uri, s.settings.admits s.folders uri = true → P uri) {uri : Uri}
    (hl : s.isLookupFile uri = true) : P uri := by
  rw [isLookupFile_eq, Bool.or_eq_true] at hl
  rcases hl with hl | hl
  · exact h uri ((Sources.holds_iff _ _).1 hl)
  · exact hP uri hl

theorem spelled_noteText_of_admits (h : s.sources.Spelled P)
    (hP : ∀ uri, s.settings.admits s.folders uri = true → P uri) (uri : Uri) (text : Text) :
    (s.noteText uri text).sources.Spelled P := by
  by_cases hl : s.isLookupFile uri = true
  · exact spelled_noteText h (spelled_of_isLookupFile h hP hl) text
  · rw [noteText, if_neg hl]
    exact h

theorem spelled_fileChanged_of_admits (h : s.sources.Spelled P)
    (hP : ∀ uri, s.settings.admits s.folders uri = true → P uri) (d : Disk) (uri : Uri)
    (e : FileEvent) : (s.fileChanged d uri e).sources.Spelled P := by
  cases e with
  | deleted => exact h.drop uri
  | other => exact h
  | written =>
    simp only [fileChanged]
    split
    · rename_i hl
      rw [Bool.and_eq_true] at hl
      exact spelled_reload h (spelled_of_isLookupFile h hP hl.2) d
    · exact h

theorem spelled_filesChanged_of_admits (h : s.sources.Spelled P)
    (hP : ∀ uri, s.settings.admits s.folders uri = true → P uri) (d : Disk)
    (events : List (Uri × FileEvent)) : (s.filesChanged d events).sources.Spelled P := by
  unfold filesChanged
  induction events generalizing s with
  | nil => exact h
  | cons e events ih =>
    have hb := beside_fileChanged d s e.1 e.2
    apply ih (spelled_fileChanged_of_admits h hP d e.1 e.2)
    rw [hb.settings, hb.folders]
    exact hP

/-- A notice that scans nothing brings only sources that the folders of the time admit. -/
theorem spelled_run_of_admits (h : s.sources.Spelled P)
    (hP : ∀ uri, s.settings.admits s.folders uri = true → P uri) {n : Notice}
    (hn : n.scanned? s = none) (d : Disk) : (n.run d s).1.sources.Spelled P := by
  have hput : ∀ uri doc, ({ s with documents := s.documents.put uri doc }.noteText uri
      doc.text).sources.Spelled P := by
    intro uri doc
    exact spelled_noteText_of_admits (s := { s with documents := s.documents.put uri doc }) h hP
      uri doc.text
  cases n with
  | ready | folders => cases hn
  | opened uri language text => exact hput uri ⟨text, language⟩
  | changed uri changes =>
    simp only [Notice.run, changed]
    split
    · exact hput uri _
    · exact h
  | closed uri => exact spelled_closed h d uri
  | files events => exact spelled_filesChanged_of_admits h hP d events

end Spelled

/-- The folder lists that failed scans have left behind after one more message. A scan that succeeds
leaves none. -/
def leftBehind (w : World) (m : Message) (s : Server) (older : List (List Uri)) :
    List (List Uri) :=
  if s.phase = .running then
    match (Notice.of? w m).bind (·.scanned? s) with
    | some folders =>
      match Scan.run w.disk s.settings folders with
      | .ok _ => []
      | .error _ => s.folders :: older
    | none => older
  else older

/-- Without a scan nothing more is left behind. -/
theorem leftBehind_of_idle {w : World} {m : Message} {s : Server}
    (h : s.phase = .running → (Notice.of? w m).bind (·.scanned? s) = none)
    (older : List (List Uri)) : s.leftBehind w m older = older := by
  unfold leftBehind
  split
  · rename_i hp
    rw [h hp]
  · rfl

theorem leftBehind_of_ok {w : World} {m : Message} {s : Server} {n : Notice} {folders : List Uri}
    {scan : Scan} (hp : s.phase = .running) (hn : Notice.of? w m = some n)
    (hs : n.scanned? s = some folders) (hrun : Scan.run w.disk s.settings folders = .ok scan)
    (older : List (List Uri)) : s.leftBehind w m older = [] := by
  simp [leftBehind, hp, hn, hs, hrun]

theorem leftBehind_of_error {w : World} {m : Message} {s : Server} {n : Notice}
    {folders : List Uri} {e : ScanError} (hp : s.phase = .running) (hn : Notice.of? w m = some n)
    (hs : n.scanned? s = some folders) (hrun : Scan.run w.disk s.settings folders = .error e)
    (older : List (List Uri)) : s.leftBehind w m older = s.folders :: older := by
  simp [leftBehind, hp, hn, hs, hrun]

/-- The states that a fresh server can come to on orderly disks, with the folder lists that failed
scans have left behind since a scan last succeeded. -/
inductive Tenure (options : StartOptions) : List (List Uri) → Server → Prop where
  | start : Tenure options [] (start options)
  | step {older : List (List Uri)} {s : Server} (w : World) (m : Message) (hw : w.disk.Orderly)
    (h : Tenure options older s) : Tenure options (s.leftBehind w m older) (s.step w m).server

theorem Tenure.reachable {options : StartOptions} {older : List (List Uri)} {s : Server}
    (h : Tenure options older s) : Reachable options s := by
  induction h with
  | start => exact .start
  | step w m _ _ ih => exact .step w m ih

/-- Whether every source is admitted by the folders of the time or by a list left behind, and a
server that waits to be set up has none. -/
structure Admitted (older : List (List Uri)) (s : Server) : Prop where
  sources : s.sources.Spelled fun uri =>
    ∃ folders ∈ s.folders :: older, s.settings.admits folders uri = true
  waiting : s.phase = .waiting → s.sources = []

theorem admitted_start (options : StartOptions) : Admitted [] (start options) where
  sources := by
    intro uri hu
    cases hu
  waiting := fun _ => rfl

theorem Admitted.idles {older : List (List Uri)} {s t : Server} (h : Admitted older s)
    (hi : Idles s t) : Admitted older t := by
  cases hi with
  | turns phase hw => exact ⟨h.sources, fun hp => h.waiting (hw hp)⟩
  | setsUp setup hp =>
    have hempty : (s.setUp setup).sources = [] := h.waiting hp
    refine ⟨?_, fun _ => hempty⟩
    rw [hempty]
    intro uri hu
    cases hu

/-- A notice that scans nothing keeps the folders, and what it adds they admit. -/
theorem Admitted.run {older : List (List Uri)} {s : Server} (h : Admitted older s)
    (hp : s.phase = .running) {n : Notice} (hn : n.scanned? s = none) (d : Disk) :
    Admitted older (n.run d s).1 := by
  have hb := beside_run hn d
  constructor
  · rw [hb.settings, hb.folders]
    exact spelled_run_of_admits h.sources (fun _ hu => ⟨s.folders, List.mem_cons_self, hu⟩) hn d
  · intro hw
    rw [hb.phase, hp] at hw
    cases hw

/-- A scan that succeeds brings sources that the folders scanned admit. -/
theorem spelled_of_scan {d : Disk} (hd : d.Orderly) {s : Server} {folders : List Uri} {scan : Scan}
    (hrun : Scan.run d s.settings folders = .ok scan) :
    ({ s with folders }.rescan d).1.sources.Spelled fun uri =>
      s.settings.admits folders uri = true := by
  have hrun' : Scan.run d { s with folders }.settings { s with folders }.folders = .ok scan := hrun
  rw [rescan_of_ok hrun']
  exact (Scan.spelled_admits hd hrun).overlay s.documents

/-- A scan that fails puts the folders in force all the same. -/
theorem rescan_of_failure {d : Disk} {s : Server} {folders : List Uri} {e : ScanError}
    (hrun : Scan.run d s.settings folders = .error e) :
    ({ s with folders }.rescan d).1 = { s with folders } := by
  have hrun' : Scan.run d { s with folders }.settings { s with folders }.folders = .error e := hrun
  rw [rescan_of_error hrun']

theorem beside_rescan (d : Disk) (s : Server) : Beside s (s.rescan d).1 := by
  unfold rescan
  simp only
  split <;> exact ⟨rfl, rfl, rfl⟩

/-- A scan puts its folders in force. If it fails, the sources stay, and the list of before is left
behind with them. -/
theorem Admitted.scan {older : List (List Uri)} {w : World} {m : Message} {s : Server} {n : Notice}
    {folders : List Uri} (h : Admitted older s) (hw : w.disk.Orderly) (hp : s.phase = .running)
    (hn : Notice.of? w m = some n) (hs : n.scanned? s = some folders) :
    Admitted (s.leftBehind w m older) ({ s with folders }.rescan w.disk).1 := by
  have hb := beside_rescan w.disk { s with folders }
  constructor
  · cases hrun : Scan.run w.disk s.settings folders with
    | ok scan =>
      rw [hb.settings, hb.folders]
      intro uri hu
      exact ⟨folders, List.mem_cons_self, spelled_of_scan hw hrun uri hu⟩
    | error e =>
      rw [rescan_of_failure hrun, leftBehind_of_error hp hn hs hrun]
      intro uri hu
      obtain ⟨known, hm, ha⟩ := h.sources uri hu
      exact ⟨known, List.mem_cons_of_mem _ hm, ha⟩
  · intro hwait
    rw [hb.phase, hp] at hwait
    cases hwait

/-- Along every run each source is admitted by the folders of the time or by a list left behind. -/
theorem Tenure.admitted {options : StartOptions} {older : List (List Uri)} {s : Server}
    (h : Tenure options older s) : Admitted older s := by
  induction h with
  | start => exact admitted_start options
  | @step older s w m hw _ ih =>
    rcases step_cases w s m with ⟨n, hp, hn, he⟩ | ⟨hn, hi⟩
    · rw [he]
      cases hs : n.scanned? s with
      | none =>
        rw [leftBehind_of_idle fun _ => by simp [hn, hs]]
        exact ih.run hp hs w.disk
      | some folders =>
        rw [Notice.run_of_scanned? hs]
        exact ih.scan hw hp hn hs
    · rw [leftBehind_of_idle fun hp => by simp [hn hp]]
      exact ih.idles hi

/-- Every source is admitted by the folders of the time or by a list that a failed scan has left
behind since a scan last succeeded. Right after a scan that succeeds the folders scanned admit every
source, and one that fails leaves the sources as they are. -/
theorem sources_admitted_since_scan {options : StartOptions} {older : List (List Uri)} {s : Server}
    (h : Tenure options older s) :
    (∀ source ∈ s.sources, ∃ folders ∈ s.folders :: older,
      s.settings.admits folders source.uri = true) ∧
    ∀ (w : World) (m : Message) (n : Notice) (folders : List Uri), w.disk.Orderly →
      s.phase = .running → Notice.of? w m = some n → n.scanned? s = some folders →
        (s.step w m).server.folders = folders ∧
        (∀ scan, Scan.run w.disk s.settings folders = .ok scan →
          ∀ source ∈ (s.step w m).server.sources,
            (s.step w m).server.settings.admits folders source.uri = true) ∧
        ∀ e, Scan.run w.disk s.settings folders = .error e →
          (s.step w m).server.sources = s.sources := by
  constructor
  · intro source hs
    exact h.admitted.sources source.uri (List.mem_map_of_mem hs)
  · intro w m n folders hw hp hn hs
    rw [step_of_notice hp hn, Notice.run_of_scanned? hs]
    have hb := beside_rescan w.disk { s with folders }
    refine ⟨hb.folders, ?_, ?_⟩
    · intro scan hrun source hm
      rw [hb.settings]
      exact spelled_of_scan hw hrun source.uri (List.mem_map_of_mem hm)
    · intro e hrun
      rw [rescan_of_failure hrun]

end Server

/-! A session in which the folder of a source gives way to one that has no path. -/

namespace Sample

theorem orderly_disk : disk.Orderly := by
  have hw : Path.IsEntry (Text.utf8 "w".toList) := by decide
  have hf : Path.IsEntry sourceName := by decide
  simp only [Disk.Orderly, disk, Node.names_dir, List.mem_singleton, forall_eq]
  exact ⟨hw, hf, Node.names_file _ []⟩

def pathless : Uri := ⟨"untitled".toList, none, "x".toList, none, none⟩

def moving : Message :=
  ⟨"workspace/didChangeWorkspaceFolders".toList, some (.mkObj [("event", .mkObj [
    ("added", .arr [.mkObj [("uri", .ofString "untitled:x"), ("name", .ofString "x")]]),
    ("removed", .arr [.mkObj [("uri", .ofString "file:///w"), ("name", .ofString "w")]])])]),
    false⟩

theorem notice_moving : Notice.of? diskWorld moving = some (.folders [pathless] [folder]) := by
  decide +kernel

/-- A folder without a path makes the scan fail. -/
theorem scan_pathless : ∃ e, Scan.run disk (Settings.start options) [pathless] = .error e :=
  Scan.exists_run_eq_error disk (.inr ⟨pathless, List.mem_singleton_self _, rfl⟩)

theorem tenure_scanned : Server.Tenure options [] (server [⟨uri, []⟩]) := by
  have h₁ := Server.Tenure.step diskWorld setUp orderly_disk (.start : Server.Tenure options [] _)
  have hl₁ : (Server.start options).leftBehind diskWorld setUp [] = [] := rfl
  rw [step_setUp, hl₁] at h₁
  have h₂ := Server.Tenure.step diskWorld ready orderly_disk h₁
  have hl₂ : (server []).leftBehind diskWorld ready [] = [] :=
    Server.leftBehind_of_ok (s := server []) rfl notice_ready rfl scan_run []
  rw [step_ready, hl₂] at h₂
  exact h₂

/-- The source that the first scan found is still there when the next scan has failed. -/
theorem tenure_moved : Server.Tenure options [[folder]]
    { server [⟨uri, []⟩] with folders := [pathless] } := by
  obtain ⟨e, he⟩ := scan_pathless
  have h := Server.Tenure.step diskWorld moving orderly_disk tenure_scanned
  have hfolders : (Notice.folders [pathless] [folder]).scanned? (server [⟨uri, []⟩]) =
      some [pathless] := by decide +kernel
  have hs : ((server [⟨uri, []⟩]).step diskWorld moving).server =
      { server [⟨uri, []⟩] with folders := [pathless] } := by
    rw [Server.step_of_notice rfl notice_moving, Notice.run_of_scanned? hfolders]
    exact Server.rescan_of_failure he
  rw [hs, Server.leftBehind_of_error rfl notice_moving hfolders he] at h
  exact h

end Sample

namespace Server

theorem sources_admitted_of_sample :
    ∃ s, Tenure Sample.options [[Sample.folder]] s ∧ s.folders = [Sample.pathless] ∧
      s.sources = [⟨Sample.uri, []⟩] ∧
      ∀ source ∈ s.sources, ∃ folders ∈ s.folders :: [[Sample.folder]],
        s.settings.admits folders source.uri = true :=
  ⟨_, Sample.tenure_moved, rfl, rfl, (sources_admitted_since_scan Sample.tenure_moved).1⟩

/-- The folders of the time do not always admit every source: a failed scan leaves the source of a
folder that is gone. -/
theorem failed_scan_keeps_source :
    ¬ ∀ (options : StartOptions) (s : Server), Reachable options s →
      ∀ source ∈ s.sources, s.settings.admits s.folders source.uri = true := by
  intro h
  have ha := h _ _ Sample.tenure_moved.reachable ⟨Sample.uri, []⟩ (List.mem_singleton_self _)
  exact absurd ha (by decide +kernel)

end Server

end CustomProps
