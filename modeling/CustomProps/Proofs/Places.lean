import CustomProps.Proofs.Discovery
import CustomProps.Proofs.Store

/-!
Sources that name one place. A path has one URI among those that files are given, so sources that a
scan brings never share a place. The store knows a source by its URI alone, and a client may spell
the place of a file in other ways; then, and only then, do two sources share it. The URIs by which a
client names documents and files are kept along a run to say so.
-/

namespace CustomProps

namespace Path

theorem isAbsolute_append {p : Path} (h : isAbsolute p = true) (q : Path) :
    isAbsolute (p ++ q) = true := by
  cases p with
  | nil => cases h
  | cons b p => exact h

/-- A slash splits the pieces of a path. -/
theorem pieces_append (p q : Path) : pieces (p ++ slash :: q) = pieces p ++ pieces q := by
  induction p with
  | nil => simp [pieces]
  | cons b p ih =>
    by_cases hb : b = slash
    · simp [pieces, hb, ih]
    · cases hp : pieces p with
      | nil =>
        -- Every path has at least one piece.
        exfalso
        cases p with
        | nil => cases hp
        | cons d p =>
          unfold pieces at hp
          split at hp
          · cases hp
          · split at hp <;> cases hp
      | cons piece rest => simp [pieces, hb, ih, hp]

theorem slash_not_mem_pieces {p : Path} {piece : Bytes} (h : piece ∈ pieces p) :
    slash ∉ piece := by
  induction p generalizing piece with
  | nil =>
    rw [pieces, List.mem_singleton] at h
    simp [h]
  | cons b p ih =>
    unfold pieces at h
    split at h
    · rcases List.mem_cons.1 h with rfl | h
      · simp
      · exact ih h
    · rename_i hb
      have hne : slash ≠ b := by
        rintro rfl
        simp at hb
      split at h
      · rw [List.mem_singleton] at h
        simp [h, hne]
      · rename_i first rest hp
        rcases List.mem_cons.1 h with rfl | h
        · have hf : slash ∉ first := ih (by rw [hp]; exact List.mem_cons_self)
          simp [hne, hf]
        · exact ih (by rw [hp]; exact List.mem_cons_of_mem _ h)

theorem pieces_of_not_mem {b : Bytes} (h : slash ∉ b) : pieces b = [b] := by
  induction b with
  | nil => rfl
  | cons x b ih =>
    rw [List.mem_cons, not_or] at h
    have hx : (x == slash) = false := by simpa using Ne.symm h.1
    simp [pieces, hx, ih h.2]

theorem join_cons (piece : Bytes) (ps : List Bytes) :
    join (piece :: ps) = piece ++ ps.flatMap (slash :: ·) := by
  induction ps generalizing piece with
  | nil => simp [join, List.intercalate]
  | cons next ps ih =>
    have hnext : join (piece :: next :: ps) = piece ++ slash :: join (next :: ps) := by
      simp [join, List.intercalate]
    rw [hnext, ih, List.flatMap_cons, List.cons_append]

/-- Pieces joined by slashes come back one by one. -/
theorem pieces_join {ps : List Bytes} (hn : ps ≠ []) (h : ∀ piece ∈ ps, slash ∉ piece) :
    pieces (join ps) = ps := by
  obtain ⟨first, rest, rfl⟩ := List.exists_cons_of_ne_nil hn
  rw [join_cons]
  induction rest generalizing first with
  | nil =>
    rw [List.flatMap_nil, List.append_nil]
    exact pieces_of_not_mem (h first List.mem_cons_self)
  | cons next rest ih =>
    have hrest := ih next (by simp) fun piece hp => h piece (List.mem_cons_of_mem _ hp)
    rw [List.flatMap_cons, List.cons_append, pieces_append, hrest,
      pieces_of_not_mem (h first List.mem_cons_self), List.singleton_append]

/-- The pieces of an absolute path that name a component. -/
def trail (p : Path) : List Bytes := (pieces (p.drop 1)).filter (!isIdle ·)

theorem slash_not_mem_trail {p : Path} {piece : Bytes} (h : piece ∈ trail p) : slash ∉ piece :=
  slash_not_mem_pieces (List.mem_of_mem_filter h)

theorem isIdle_of_mem_trail {p : Path} {piece : Bytes} (h : piece ∈ trail p) :
    isIdle piece = false := by
  simpa using (List.mem_filter.1 h).2

theorem components_of_isAbsolute {p : Path} (h : isAbsolute p = true) :
    components p = .root :: (trail p).map componentOf := by
  rw [components, if_pos h]
  rfl

theorem bytes_componentOf (piece : Bytes) : (componentOf piece).bytes = piece := by
  unfold componentOf
  split
  · rename_i hup
    rw [beq_iff_eq] at hup
    rw [hup]
    rfl
  · rfl

/-- The pieces that name a component, joined again, are the same ones. -/
theorem trail_join {ps : List Bytes} (h : ∀ piece ∈ ps, slash ∉ piece ∧ isIdle piece = false) :
    trail (slash :: join ps) = ps := by
  have hkeep : ps.filter (!isIdle ·) = ps := by
    rw [List.filter_eq_self]
    intro piece hp
    simp [(h piece hp).2]
  rw [trail, List.drop_succ_cons, List.drop_zero]
  by_cases hn : ps = []
  · rw [hn]
    decide
  · rw [pieces_join hn fun piece hp => (h piece hp).1, hkeep]

end Path

namespace Uri

theorem trail_closeDrive {p : Path} (h : Path.isAbsolute p = true) :
    Path.trail (closeDrive p) = Path.trail p := by
  have hend : Path.trail (p ++ [Path.slash]) = Path.trail p := by
    obtain ⟨q, rfl⟩ := List.head?_eq_some_iff.1 (by simpa [Path.isAbsolute] using h)
    have hq := Path.pieces_append q []
    simp only [Path.trail, List.cons_append, List.drop_succ_cons, List.drop_zero, hq,
      List.filter_append]
    simp [Path.pieces, Path.isIdle]
  unfold closeDrive
  split
  · split
    · exact hend
    · rfl
  · rfl

theorem isAbsolute_closeDrive {p : Path} (h : Path.isAbsolute p = true) :
    Path.isAbsolute (closeDrive p) = true := by
  unfold closeDrive
  split
  · split
    · exact Path.isAbsolute_append h _
    · exact h
  · exact h

theorem split_segments {cs : List Component} (h : cs ≠ []) :
    Text.split '/' ((cs.flatMap ('/' :: segmentOf ·)).drop 1) = cs.map segmentOf := by
  rw [← List.flatMap_map]
  apply Text.split_flatMap (by simpa using h)
  intro s hs
  obtain ⟨c, -, rfl⟩ := List.mem_map.1 hs
  exact slash_not_mem_segmentOf c

/-- The URI of a path leads back to the path, spelled without its idle pieces. -/
theorem filePath?_ofFilePath? {p : Path} {u : Uri} (h : ofFilePath? p = some u) :
    u.filePath? = some (closeDrive (Path.slash :: Path.join (Path.trail p))) := by
  have htrail : ∀ rest, Path.components p = .root :: rest →
      Path.trail p = rest.map Component.bytes := by
    intro rest hp
    rw [Path.eq_inner_of_components hp, Path.inner, List.map_map]
    have hid : Component.bytes ∘ Path.componentOf = id := funext Path.bytes_componentOf
    rw [hid, List.map_id, Path.trail]
  unfold ofFilePath? at h
  split at h
  · rename_i hp
    cases h
    rw [htrail [] hp]
    rfl
  · rename_i rest hne hp
    cases h
    rw [htrail rest hp]
    obtain ⟨first, others, rfl⟩ := List.exists_cons_of_ne_nil (show rest ≠ [] from hne)
    have hsplit := split_segments (List.cons_ne_nil first others)
    have hpath : ((first :: others).map segmentOf).flatMap (Path.slash :: Percent.decode ·) =
        Path.slash :: Path.join ((first :: others).map Component.bytes) := by
      simp [Path.join_cons, List.flatMap_map, decode_segmentOf]
    rw [filePath?, hsplit, hpath]
    rfl
  · cases h

/-- The URI of a path leads back to the place of the path. -/
theorem filePath?_of_ofFilePath? {p : Path} {u : Uri} (h : ofFilePath? p = some u) :
    ∃ q, u.filePath? = some q ∧ Path.components q = Path.components p := by
  refine ⟨_, filePath?_ofFilePath? h, ?_⟩
  have habs : Path.isAbsolute (Path.slash :: Path.join (Path.trail p)) = true := rfl
  have hp := Path.isAbsolute_of_components (components_of_ofFilePath? h)
  rw [Path.components_of_isAbsolute (isAbsolute_closeDrive habs), trail_closeDrive habs,
    Path.trail_join fun piece hm => ⟨Path.slash_not_mem_trail hm, Path.isIdle_of_mem_trail hm⟩,
    Path.components_of_isAbsolute hp]

theorem ofFilePath?_congr {p q : Path} (h : Path.components p = Path.components q) :
    ofFilePath? p = ofFilePath? q := by
  rw [ofFilePath?, ofFilePath?, h]

/-- Whether a URI is the one that its own path is given. -/
def isCanonical (u : Uri) : Bool := u.filePath?.bind ofFilePath? == some u

theorem isCanonical_of_ofFilePath? {p : Path} {u : Uri} (h : ofFilePath? p = some u) :
    u.isCanonical = true := by
  obtain ⟨q, hq, hc⟩ := filePath?_of_ofFilePath? h
  rw [isCanonical, hq, Option.bind_some, ofFilePath?_congr hc, h, beq_self_eq_true]

/-- One place has one canonical URI. -/
theorem eq_of_isCanonical {u v : Uri} (hu : u.isCanonical = true) (hv : v.isCanonical = true)
    {p q : Path} (hp : u.filePath? = some p) (hq : v.filePath? = some q)
    (h : Path.same p q = true) : u = v := by
  rw [isCanonical, hp, Option.bind_some, beq_iff_eq] at hu
  rw [isCanonical, hq, Option.bind_some, beq_iff_eq] at hv
  have hpq : ofFilePath? p = ofFilePath? q := ofFilePath?_congr (by simpa [Path.same] using h)
  rw [hu, hv] at hpq
  exact Option.some.inj hpq

end Uri

/-- The URIs by which a notice names documents and files that may become sources. -/
def Notice.names : Notice → List Uri
  | .opened uri _ _ => [uri]
  | .changed uri _ => [uri]
  | .files events => events.map (·.1)
  | .ready _ | .closed _ | .folders _ _ => []

namespace Sources

/-- Whether every source has a URI that satisfies `P`. -/
def Spelled (P : Uri → Prop) (sources : Sources) : Prop := ∀ uri ∈ sources.map (·.uri), P uri

variable {P : Uri → Prop} {sources : Sources}

theorem Spelled.revise (h : sources.Spelled P) (uri : Uri) (text : Text) :
    (sources.revise uri text).Spelled P := by
  rw [Spelled, map_uri_revise]
  exact h

theorem Spelled.put (h : sources.Spelled P) {uri : Uri} (hu : P uri) (text : Text) :
    (sources.put uri text).Spelled P := by
  unfold Sources.put
  split
  · exact h.revise uri text
  · intro u hm
    rw [List.map_append, List.mem_append] at hm
    rcases hm with hm | hm
    · exact h u hm
    · rw [List.map_singleton, List.mem_singleton] at hm
      rw [hm]
      exact hu

theorem Spelled.drop (h : sources.Spelled P) (uri : Uri) : (sources.drop uri).Spelled P := by
  intro u hm
  obtain ⟨s, hs, rfl⟩ := List.mem_map.1 hm
  exact h _ (List.mem_map_of_mem (mem_drop.1 hs).2)

theorem Spelled.overlay (h : sources.Spelled P) (docs : Documents) :
    (Server.overlay docs sources).Spelled P := by
  unfold Server.overlay
  induction docs generalizing sources with
  | nil => exact h
  | cons e docs ih => exact ih (h.revise e.1 e.2.text)

end Sources

/-- The sources that a scan finds have the canonical URIs of their files. -/
theorem Scan.spelled_run {d : Disk} {settings : Settings} {folders : List Uri} {scan : Scan}
    (h : run d settings folders = .ok scan) :
    scan.sources.Spelled fun uri => uri.isCanonical = true := by
  obtain ⟨filter, roots, -, -, rfl⟩ := run_eq_ok_iff.1 h
  intro uri hu
  obtain ⟨s, hs, rfl⟩ := List.mem_map.1 hu
  obtain ⟨p, -, hr⟩ := List.mem_filterMap.1 hs
  exact Uri.isCanonical_of_ofFilePath? (read?_eq_some_iff.1 hr).2

namespace Server

variable {P : Uri → Prop} {s : Server}

theorem spelled_noteText (h : s.sources.Spelled P) {uri : Uri} (hu : P uri) (text : Text) :
    (s.noteText uri text).sources.Spelled P := by
  unfold noteText
  split
  · exact h.put hu text
  · exact h

theorem spelled_reload (h : s.sources.Spelled P) {uri : Uri} (hu : P uri) (d : Disk) :
    (s.reload d uri).sources.Spelled P := by
  unfold reload
  split
  · exact h.put hu _
  · exact h.drop uri

theorem spelled_closed (h : s.sources.Spelled P) (d : Disk) (uri : Uri) :
    (s.closed d uri).sources.Spelled P := by
  unfold closed
  simp only
  split
  · rename_i hh
    have hu : P uri := h uri ((Sources.holds_iff _ _).1 hh)
    apply spelled_reload _ hu d
    exact h
  · exact h

theorem spelled_filesChanged (h : s.sources.Spelled P) (d : Disk)
    {events : List (Uri × FileEvent)} (hu : ∀ uri ∈ events.map (·.1), P uri) :
    (s.filesChanged d events).sources.Spelled P := by
  unfold filesChanged
  induction events generalizing s with
  | nil => exact h
  | cons e events ih =>
    obtain ⟨uri, event⟩ := e
    apply ih _ fun u hm => hu u (List.mem_cons_of_mem _ hm)
    cases event with
    | deleted => exact h.drop uri
    | other => exact h
    | written =>
      simp only [fileChanged]
      split
      · exact spelled_reload h (hu uri List.mem_cons_self) d
      · exact h

theorem spelled_rescan (h : s.sources.Spelled P) (hc : ∀ uri : Uri, uri.isCanonical = true → P uri)
    (d : Disk) : (s.rescan d).1.sources.Spelled P := by
  unfold rescan
  simp only
  split
  · rename_i scan hrun
    have hs : scan.sources.Spelled P := fun uri hu => hc uri (Scan.spelled_run hrun uri hu)
    exact hs.overlay s.documents
  · exact h

/-- A notice brings sources under canonical URIs and under those that it names. -/
theorem spelled_run (h : s.sources.Spelled P) (hc : ∀ uri : Uri, uri.isCanonical = true → P uri)
    (d : Disk) {n : Notice} (hn : ∀ uri ∈ n.names, P uri) : (n.run d s).1.sources.Spelled P := by
  cases n with
  | ready known =>
    apply spelled_rescan _ hc d
    exact h
  | opened uri language text =>
    apply spelled_noteText _ (hn uri List.mem_cons_self) text
    exact h
  | changed uri changes =>
    simp only [Notice.run, changed]
    split
    · apply spelled_noteText _ (hn uri List.mem_cons_self)
      exact h
    · exact h
  | closed uri => exact spelled_closed h d uri
  | files events => exact spelled_filesChanged h d hn
  | folders added removed =>
    apply spelled_rescan _ hc d
    exact h

/-- The states that a fresh server can come to, with the URIs by which its client named documents
and files on the way. -/
inductive History (options : StartOptions) : List Uri → Server → Prop where
  | start : History options [] (start options)
  | step {named : List Uri} {s : Server} (w : World) (m : Message) (h : History options named s) :
    History options (((Notice.of? w m).elim [] Notice.names) ++ named) (s.step w m).server

theorem reachable_iff {options : StartOptions} {s : Server} :
    Reachable options s ↔ ∃ named, History options named s := by
  constructor
  · intro h
    induction h with
    | start => exact ⟨[], .start⟩
    | step w m _ ih =>
      obtain ⟨named, h⟩ := ih
      exact ⟨_, .step w m h⟩
  · rintro ⟨named, h⟩
    induction h with
    | start => exact .start
    | step w m _ ih => exact .step w m ih

/-- Along every history the sources have canonical URIs or such as the client named. -/
theorem History.keeps {options : StartOptions} {named : List Uri} {s : Server}
    (h : History options named s) :
    s.Coherent ∧ s.sources.Spelled fun uri => uri.isCanonical = true ∨ uri ∈ named := by
  induction h with
  | start =>
    refine ⟨coherent_start options, ?_⟩
    intro uri hu
    cases hu
  | @step named s w m _ ih =>
    obtain ⟨hco, hsp⟩ := ih
    have hold : s.sources.Spelled fun uri =>
        uri.isCanonical = true ∨ uri ∈ ((Notice.of? w m).elim [] Notice.names) ++ named :=
      fun uri hu => (hsp uri hu).imp id (List.mem_append_right _)
    rcases step_cases w s m with ⟨n, -, hn, he⟩ | ⟨-, hi⟩
    · rw [hn] at hold
      rw [he, hn]
      exact ⟨hco.run w.disk n, spelled_run hold (fun _ h => .inl h) w.disk
        fun uri hu => .inr (List.mem_append_left _ hu)⟩
    · refine ⟨hco.idles hi, ?_⟩
      rw [hi.sources]
      exact hold

theorem Reachable.coherent {options : StartOptions} {s : Server} (h : Reachable options s) :
    s.Coherent := by
  obtain ⟨named, hh⟩ := reachable_iff.1 h
  exact hh.keeps.1

/-- Every reachable state has a history, and two of its sources share a place only if the client
named one of them by a URI that is not canonical. -/
theorem sources_share_place_by_spelling (options : StartOptions) (s : Server) :
    (Reachable options s ↔ ∃ named, History options named s) ∧
    ∀ named, History options named s → s.sources.Pairwise fun a b =>
      ∀ p q, a.uri.filePath? = some p → b.uri.filePath? = some q → Path.same p q = true →
        ∃ uri ∈ named, (uri = a.uri ∨ uri = b.uri) ∧ uri.isCanonical = false := by
  refine ⟨reachable_iff, ?_⟩
  intro named h
  obtain ⟨hco, hsp⟩ := h.keeps
  have hne : s.sources.Pairwise fun a b => a.uri ≠ b.uri := List.pairwise_map.1 hco.sources
  refine hne.imp_of_mem ?_
  intro a b ha hb hab p q hp hq hs
  have hnamed : ∀ source ∈ s.sources, source.uri.isCanonical = false → source.uri ∈ named := by
    intro source hm hc
    rcases hsp source.uri (List.mem_map_of_mem hm) with h | h
    · rw [hc] at h
      cases h
    · exact h
  cases hca : a.uri.isCanonical with
  | false => exact ⟨a.uri, hnamed a ha hca, .inl rfl, hca⟩
  | true =>
    cases hcb : b.uri.isCanonical with
    | false => exact ⟨b.uri, hnamed b hb hcb, .inr rfl, hcb⟩
    | true => exact absurd (Uri.eq_of_isCanonical hca hcb hp hq hs) hab

end Server

/-! A session with a file on the disk that a scan finds, and that the client then opens under a URI
with one of its letters written by its code. -/

namespace Sample

def disk : Disk := ⟨.dir [(Text.utf8 "w".toList, .dir [(sourceName, .file [])])]⟩

def diskWorld : World := ⟨disk, .null⟩

def filePath : Path := Text.utf8 "/w/a.globals.ts".toList

def folder : Uri := ⟨"file".toList, some .nobody, "/w".toList, none, none⟩

/-- The server that is set up, with the sources given. -/
def server (sources : Sources) : Server :=
  ⟨options, Settings.start options, sources, [], [folder], .running⟩

def ready : Message := ⟨"initialized".toList, some (.mkObj []), false⟩

def otherUri : Uri := { uri with path := "/w/%61.globals.ts".toList }

def openingOther : Message :=
  ⟨"textDocument/didOpen".toList, some (.mkObj [("textDocument", .mkObj [
    ("uri", .ofString "file:///w/%61.globals.ts"), ("languageId", .ofString "typescript"),
    ("version", .ofNat 1), ("text", .ofString "b")])]), false⟩

theorem readText?_filePath : disk.readText? filePath = some [] := by cbv

/-- The scan of the folder finds the file. -/
theorem scan_run :
    Scan.run disk (Settings.start options) [folder] = .ok ⟨[⟨uri, []⟩], [(1, 1)]⟩ := by
  have hroots : [folder].map Uri.filePath? = [workspace].map some := rfl
  have hentry : disk.entry? workspace = some (.dir [(sourceName, .file [])]) := by cbv
  have huri : Uri.ofFilePath? filePath = some uri := by decide +kernel
  have hread : Scan.read? disk filePath = some ⟨uri, []⟩ :=
    Scan.read?_eq_some_iff.2 ⟨readText?_filePath, huri⟩
  have hchild : Path.child workspace (Path.child [] sourceName) = filePath := by decide
  have haccepts : (SourceFilter.ofSettings (Settings.start options)).toOption.any
      (·.accepts (Path.child [] sourceName)) = true := by decide +kernel
  obtain ⟨f, hf, ha⟩ := SourceFilter.exists_ok_of_any haccepts
  have hbelow : Discovery.below disk f workspace = [filePath] := by
    simp [Discovery.below, hentry, Discovery.walk, Discovery.walkEntries, Discovery.inOrder,
      Discovery.below.spelled, Node.isDir, ha, hchild]
  have hsources : Discovery.sources disk f [workspace] = [filePath] := by
    simp [Discovery.sources, hbelow, Discovery.distinct]
  exact Scan.run_eq_ok_iff.2 ⟨f, [workspace], hf, hroots, by simp [hsources, hread]⟩

theorem step_setUp : ((Server.start options).step diskWorld setUp).server = server [] := by
  decide +kernel

theorem notice_ready : Notice.of? diskWorld ready = some (.ready none) := by decide +kernel

theorem step_ready : ((server []).step diskWorld ready).server = server [⟨uri, []⟩] := by
  rw [Server.step_of_notice rfl notice_ready]
  simp [Notice.run, Server.ready, Server.rescan, server, diskWorld, scan_run, Server.overlay]

/-- The session up to the opening of the file, which the scan has found by then. -/
theorem history_scanned : Server.History options [] (server [⟨uri, []⟩]) := by
  have h₁ := Server.History.step diskWorld setUp (.start : Server.History options [] _)
  have hn₁ : Notice.of? diskWorld setUp = none := rfl
  rw [step_setUp, hn₁] at h₁
  have h₂ := Server.History.step diskWorld ready h₁
  rw [step_ready, notice_ready] at h₂
  exact h₂

end Sample

namespace Server

theorem sources_share_place_of_sample :
    ∃ s, History Sample.options [Sample.otherUri] s ∧
      s.sources = [⟨Sample.uri, []⟩, ⟨Sample.otherUri, ['b']⟩] ∧
      Sample.otherUri.isCanonical = false ∧
      s.sources.Pairwise fun a b =>
        ∀ p q, a.uri.filePath? = some p → b.uri.filePath? = some q → Path.same p q = true →
          ∃ uri ∈ [Sample.otherUri], (uri = a.uri ∨ uri = b.uri) ∧ uri.isCanonical = false := by
  have h := History.step Sample.diskWorld Sample.openingOther Sample.history_scanned
  have hn : ((Notice.of? Sample.diskWorld Sample.openingOther).elim [] Notice.names) =
      [Sample.otherUri] := by decide +kernel
  rw [hn] at h
  exact ⟨_, h, by decide +kernel, by decide +kernel,
    (sources_share_place_by_spelling Sample.options _).2 _ h⟩

/-- Not every reachable state has one source for a file: the file that the scan found is there a
second time under the URI by which it was opened. -/
theorem opened_file_has_two_sources :
    ¬ ∀ (options : StartOptions) (s : Server), Reachable options s →
      s.sources.Pairwise fun a b => ∀ p q, a.uri.filePath? = some p → b.uri.filePath? = some q →
        Path.same p q = false := by
  intro h
  have hr := reachable_iff.2
    ⟨_, History.step Sample.diskWorld Sample.openingOther Sample.history_scanned⟩
  have hs : ((Sample.server [⟨Sample.uri, []⟩]).step Sample.diskWorld
      Sample.openingOther).server.sources = [⟨Sample.uri, []⟩, ⟨Sample.otherUri, ['b']⟩] := by
    decide +kernel
  have hp := h _ _ hr
  rw [hs, List.pairwise_cons] at hp
  have hd := hp.1 _ (List.mem_singleton_self _) _ _ rfl rfl
  exact absurd hd (by decide +kernel)

end Server

end CustomProps
