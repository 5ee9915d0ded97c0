import CustomProps.Proofs.Admission

/-!
The order in which sources are found. On a disk whose directories have one entry for each name, a
walk finds the files below a root in the order of their names, directory by directory: of two files
the first is the one whose path has the lesser name where the paths part. Further roots add, in
their own order, the files that no root before them has found.
-/

namespace CustomProps

theorem Bytes.le_iff (a b : Bytes) : le a b = true ↔ a ≤ b := by
  induction a generalizing b with
  | nil => simp [le]
  | cons x a ih =>
    cases b with
    | nil => simp [le]
    | cons y b => simp [le, List.cons_le_cons_iff, ih]

namespace Path

/-- The components of a path as they are written. -/
def names (p : Path) : List Bytes := (components p).map Component.bytes

/-- Whether a path comes before another one, component by component in byte order. -/
def Before (p q : Path) : Prop := p.names < q.names

instance (p q : Path) : Decidable (p.Before q) := inferInstanceAs (Decidable (p.names < q.names))

theorem Before.same_eq_false {p q : Path} (h : p.Before q) : same p q = false := by
  rw [same, beq_eq_false_iff_ne]
  intro he
  rw [Before, names, names, he] at h
  exact List.lt_irrefl _ h

theorem names_of_isAbsolute {p : Path} (h : isAbsolute p = true) :
    p.names = Component.root.bytes :: trail p := by
  have hid : Component.bytes ∘ componentOf = id := funext bytes_componentOf
  rw [names, components_of_isAbsolute h, List.map_cons, List.map_map, hid, List.map_id]

end Path

namespace Node

/-- Whether no directory, the node and all below it, has two entries of one name. -/
def NamesApart (node : Node) : Prop :=
  ∀ names entries, node.Holds names (.dir entries) → (entries.map (·.1)).Nodup

theorem namesApart_file (content : Bytes) : (Node.file content).NamesApart := by
  intro names entries h
  cases h

theorem namesApart_dir {entries : List (Bytes × Node)} :
    (Node.dir entries).NamesApart ↔
      (entries.map (·.1)).Nodup ∧ ∀ e ∈ entries, e.2.NamesApart := by
  constructor
  · intro h
    refine ⟨h [] entries (.here _), ?_⟩
    rintro ⟨name, child⟩ hm names below hh
    exact h (name :: names) below (.entry hm hh)
  · rintro ⟨hnodup, h⟩ names below hh
    cases hh with
    | here => exact hnodup
    | entry hm hh => exact h _ hm _ _ hh

theorem NamesApart.of_holds {a b : Node} {names : List Bytes} (h : a.NamesApart)
    (hb : a.Holds names b) : b.NamesApart := fun _ _ hh => h _ _ (hb.trans hh)

end Node

/-- What a file system gives of a directory tree: entries have names as paths hold them, and those
of one directory have different names. -/
structure Disk.IsTree (d : Disk) : Prop where
  orderly : d.Orderly
  apart : d.root.NamesApart

namespace Discovery

variable {f : SourceFilter}

/-- The files of the entries of a directory are in order if those of each entry are, and those of
an entry come before those of an entry with a greater name. -/
theorem pairwise_inOrder {R : Path → Path → Prop} {found : List (Bytes × List Path)}
    (hn : (found.map (·.1)).Nodup) (hin : ∀ e ∈ found, e.2.Pairwise R)
    (hbetween : ∀ a ∈ found, ∀ b ∈ found, a.1 < b.1 → ∀ p ∈ a.2, ∀ q ∈ b.2, R p q) :
    (inOrder found).Pairwise R := by
  have hsorted : (found.mergeSort fun a b => Bytes.le a.1 b.1).Pairwise
      fun a b => Bytes.le a.1 b.1 = true := by
    apply List.pairwise_mergeSort
    · intro a b c
      simpa only [Bytes.le_iff] using List.le_trans
    · intro a b
      simpa only [Bool.or_eq_true, Bytes.le_iff] using List.le_total a.1 b.1
  simp only [Bytes.le_iff] at hsorted
  have hne : (found.mergeSort fun a b => Bytes.le a.1 b.1).Pairwise fun a b => a.1 ≠ b.1 := by
    rw [List.Nodup, List.pairwise_map] at hn
    exact hn.perm (List.mergeSort_perm _ _).symm fun h => Ne.symm h
  rw [inOrder, List.pairwise_flatMap]
  refine ⟨fun e he => hin e (List.mem_mergeSort.1 he), ?_⟩
  refine (hsorted.and hne).imp_of_mem ?_
  rintro a b ha hb ⟨hab, hneq⟩
  exact hbetween a (List.mem_mergeSort.1 ha) b (List.mem_mergeSort.1 hb)
    (Std.lt_of_le_of_ne hab hneq)

theorem walkEntries_eq_map (relative : Path) (entries : List (Bytes × Node)) :
    walkEntries f relative entries = entries.map fun e =>
      (e.1, if e.2.isDir && f.ignoresDir (Path.child relative e.1) then []
        else walk f (Path.child relative e.1) e.2) := by
  induction entries with
  | nil => rfl
  | cons e entries ih =>
    rw [walkEntries, ih]
    rfl

/-- What a directory finds for an entry lies below it at the entry's name. -/
theorem exists_of_mem_walkEntries {relative : Path} {entries : List (Bytes × Node)}
    {e : Bytes × List Path} (he : e ∈ walkEntries f relative entries) {p : Path} (hp : p ∈ e.2) :
    ∃ names content, (Node.dir entries).Holds (e.1 :: names) (.file content) ∧
      p = Path.under relative (e.1 :: names) := by
  rw [walkEntries_eq_map] at he
  obtain ⟨⟨name, child⟩, hm, rfl⟩ := List.mem_map.1 he
  dsimp only at hp
  split at hp
  · cases hp
  · obtain ⟨names, content, hh, rfl, -⟩ := (mem_walk child).1 hp
    exact ⟨names, content, .entry hm hh, rfl⟩

/-- Two files below a node, of which the first lies at lesser names. -/
inductive Precedes (node : Node) (relative : Path) : Path → Path → Prop
  | of_lt {front back : List Bytes} {a b : Bytes} : node.Holds front (.file a) →
      node.Holds back (.file b) → front < back →
      Precedes node relative (Path.under relative front) (Path.under relative back)

/-- A walk finds the files below a node in the order of their names. -/
theorem pairwise_walk (relative : Path) (node : Node) (h : node.NamesApart) :
    (walk f relative node).Pairwise (Precedes node relative) := by
  match node with
  | .file content =>
    rw [walk]
    split
    · exact List.pairwise_singleton _ _
    · exact .nil
  | .link target => exact .nil
  | .dir entries =>
    obtain ⟨hnodup, hchildren⟩ := Node.namesApart_dir.1 h
    rw [walk]
    apply pairwise_inOrder
    · rw [walkEntries_eq_map]
      simpa [Function.comp_def] using hnodup
    · intro e he
      rw [walkEntries_eq_map] at he
      obtain ⟨⟨name, child⟩, hm, rfl⟩ := List.mem_map.1 he
      dsimp only
      split
      · exact .nil
      · refine (pairwise_walk _ child (hchildren _ hm)).imp ?_
        rintro p q ⟨hfront, hback, hlt⟩
        exact .of_lt (.entry hm hfront) (.entry hm hback)
          (List.cons_lt_cons_iff.2 (.inr ⟨rfl, hlt⟩))
    · intro a ha b hb hlt p hp q hq
      obtain ⟨front, _, hfront, rfl⟩ := exists_of_mem_walkEntries ha hp
      obtain ⟨back, _, hback, rfl⟩ := exists_of_mem_walkEntries hb hq
      exact .of_lt hfront hback (List.cons_lt_cons_iff.2 (.inl hlt))
termination_by sizeOf node
decreasing_by
  have hlt := List.sizeOf_lt_of_mem hm
  simp only [Prod.mk.sizeOf_spec, Node.dir.sizeOf_spec] at hlt ⊢
  omega

theorem isAbsolute_of_start? {d : Disk} {root : Path} {tree : Node}
    (h : start? d root = some tree) : Path.isAbsolute root = true := by
  have hplace : ∀ follow, (d.place? follow root).bind d.root.get? = some tree →
      Path.isAbsolute root = true := by
    intro follow hn
    obtain ⟨place, hp, -⟩ := Option.bind_eq_some_iff.1 hn
    unfold Disk.place? at hp
    split at hp
    · rename_i habs
      exact habs
    · cases hp
  unfold start? at h
  split at h
  · exact hplace true (Option.filter_eq_some_iff.1 h).1
  · exact hplace false h

/-- Files below a root stand in the order of their names. -/
theorem before_spelling {root : Path} (hr : Path.isAbsolute root = true) {front back : List Bytes}
    (hf : ∀ name ∈ front, Path.IsEntry name) (hb : ∀ name ∈ back, Path.IsEntry name)
    (h : front < back) : (spelling root front).Before (spelling root back) := by
  rw [Path.Before, Path.names_of_isAbsolute (isAbsolute_spelling hr front),
    Path.names_of_isAbsolute (isAbsolute_spelling hr back), trail_spelling hr hf,
    trail_spelling hr hb, ← List.cons_append, ← List.cons_append]
  exact List.append_left_lt h

/-- A root lists the files below it in the order of their paths. -/
theorem pairwise_below {d : Disk} (hd : d.IsTree) (root : Path) :
    (below d f root).Pairwise Path.Before := by
  rw [below_eq]
  cases hs : start? d root with
  | none => exact .nil
  | some tree =>
    obtain ⟨place, hp⟩ := exists_holds_of_start? hs
    have horder := pairwise_walk (f := f) [] tree (hd.apart.of_holds hp)
    have hnames := names_of_start? hd.orderly hs
    have habs := isAbsolute_of_start? hs
    cases tree with
    | link target => exact .nil
    | file content =>
      dsimp only
      split
      · exact List.pairwise_singleton _ _
      · exact .nil
    | dir entries =>
      dsimp only
      rw [List.pairwise_map]
      refine horder.imp ?_
      rintro p q ⟨hfront, hback, hlt⟩
      rw [← spelling_of_holds hfront, ← spelling_of_holds hback]
      exact before_spelling habs (hnames _ _ hfront) (hnames _ _ hback) hlt

/-- Paths of different places are all distinct. -/
theorem distinct_of_pairwise {ps : List Path}
    (h : ps.Pairwise fun p q => Path.same p q = false) : distinct ps = ps := by
  induction h with
  | nil => rfl
  | @cons p ps hp _ ih =>
    have hkeep : ps.filter (!Path.same p ·) = ps := by
      rw [List.filter_eq_self]
      intro q hq
      simp [hp q hq]
    rw [distinct, ih, hkeep]

/-- A list with the paths of another one that name other places. -/
def extend (listed found : List Path) : List Path :=
  listed ++ found.filter fun p => !listed.any (Path.same · p)

theorem distinct_append (ps qs : List Path) :
    distinct (ps ++ qs) = extend (distinct ps) (distinct qs) := by
  induction ps with
  | nil => simp [extend, distinct]
  | cons p ps ih =>
    -- What names the place of `p` is left out already, so it does not matter whether the rest of
    -- the list has it.
    have hany : ∀ q, (!Path.same p q && !(distinct ps).any (Path.same · q)) =
        !(p :: (distinct ps).filter (!Path.same p ·)).any (Path.same · q) := by
      intro q
      cases hq : Path.same p q with
      | true => simp [hq]
      | false =>
        have hrest : ∀ r, (!Path.same p r && Path.same r q) = Path.same r q := by
          intro r
          simp only [Path.same] at hq ⊢
          grind
        simp only [List.any_cons, hq, List.any_filter, hrest, Bool.not_false, Bool.true_and,
          Bool.false_or]
    rw [List.cons_append, distinct, ih, distinct, extend, extend, List.filter_append,
      List.filter_filter, List.cons_append]
    simp only [hany]

/-- The sources below a list of roots are found root by root. -/
theorem foldl_extend (d : Disk) (roots : List Path) (listed : List Path) :
    roots.foldl (fun listed root => extend listed (sources d f [root])) (distinct listed) =
      distinct (listed ++ roots.flatMap (below d f)) := by
  induction roots generalizing listed with
  | nil => simp
  | cons root roots ih =>
    have hone : sources d f [root] = distinct (below d f root) := by
      rw [sources, List.flatMap_singleton]
    rw [List.foldl_cons, hone, ← distinct_append, ih, List.flatMap_cons, List.append_assoc]

/-- No place is listed twice, and the sources of a list of roots are those of each root by itself,
root by root, without the places that are listed already. On a directory tree the sources of one
root are the accepted files that it reaches through directories that are not ignored, in strictly
increasing order of their paths, component by component. -/
theorem sources_in_order (d : Disk) (f : SourceFilter) :
    (∀ roots, (sources d f roots).Pairwise fun p q => Path.same p q = false) ∧
    (∀ roots, sources d f roots =
      roots.foldl (fun listed root => extend listed (sources d f [root])) []) ∧
    (d.IsTree → ∀ root, (sources d f [root]).Pairwise Path.Before ∧
      ∀ p, p ∈ sources d f [root] ↔ ∃ names, Reaches d root names ∧ p = spelling root names ∧
        f.accepts (Path.under [] names) = true ∧ Entered f [] names) := by
  refine ⟨fun roots => pairwise_distinct _, fun roots => (foldl_extend d roots []).symm, ?_⟩
  intro hd root
  have horder := pairwise_below (f := f) hd root
  have hone : sources d f [root] = below d f root := by
    rw [sources, List.flatMap_singleton,
      distinct_of_pairwise (horder.imp fun h => h.same_eq_false)]
  rw [hone]
  exact ⟨horder, fun p => mem_below⟩

end Discovery

/-! A folder with a source and a directory that has another one. The directory comes first, though
the path of its source is the greater one byte by byte. -/

namespace Sample

def innerDir : Bytes := Text.utf8 "a".toList

def innerPath : Path := Text.utf8 "/w/a/b.globals.ts".toList

def nestedFolder : List (Bytes × Node) :=
  [(sourceName, .file []), (innerDir, .dir [(brokenName, .file [])])]

def nestedDisk : Disk := ⟨.dir [(Text.utf8 "w".toList, .dir nestedFolder)]⟩

theorem isTree_nestedDisk : nestedDisk.IsTree where
  orderly := by
    have hnames : Path.IsEntry (Text.utf8 "w".toList) ∧ Path.IsEntry sourceName ∧
        Path.IsEntry innerDir ∧ Path.IsEntry brokenName := by decide
    obtain ⟨hw, hf, hi, hb⟩ := hnames
    simp only [Disk.Orderly, nestedDisk, nestedFolder, Node.names_dir, List.mem_cons,
      List.not_mem_nil, or_false, forall_eq, forall_eq_or_imp]
    exact ⟨hw, ⟨hf, Node.names_file _ []⟩, hi, hb, Node.names_file _ []⟩
  apart := by
    have hne : sourceName ≠ innerDir := by decide
    simp [nestedDisk, nestedFolder, Node.namesApart_dir, Node.namesApart_file, hne]

theorem start?_nestedDisk :
    Discovery.start? nestedDisk workspace = some (.dir nestedFolder) := by
  have hentry : nestedDisk.entry? workspace = some (.dir nestedFolder) := by cbv
  rw [Discovery.start?, hentry]

end Sample

namespace Discovery

theorem sources_in_order_of_sample :
    Sample.nestedDisk.IsTree ∧ ∃ f, SourceFilter.ofSettings Settings.default = .ok f ∧
      (sources Sample.nestedDisk f [Sample.workspace]).Pairwise Path.Before ∧
      Sample.innerPath ∈ sources Sample.nestedDisk f [Sample.workspace] ∧
      Sample.filePath ∈ sources Sample.nestedDisk f [Sample.workspace] ∧
      Sample.innerPath.Before Sample.filePath := by
  have hchecks : (SourceFilter.ofSettings Settings.default).toOption.any (fun f =>
      f.accepts (Path.under [] [Sample.sourceName]) &&
        f.accepts (Path.under [] [Sample.innerDir, Sample.brokenName]) &&
        !f.ignoresDir Sample.innerDir) = true := by decide +kernel
  obtain ⟨f, hf, hc⟩ := SourceFilter.exists_ok_of_any hchecks
  simp only [Bool.and_eq_true, Bool.not_eq_true'] at hc
  obtain ⟨⟨hsource, hinner⟩, hopen⟩ := hc
  obtain ⟨horder, hmem⟩ := (sources_in_order Sample.nestedDisk f).2.2 Sample.isTree_nestedDisk
    Sample.workspace
  have hstart := Sample.start?_nestedDisk
  have hentered : Entered f [] [Sample.innerDir, Sample.brokenName] :=
    entered_cons.2 ⟨fun _ => hopen, entered_cons.2 ⟨by simp, entered_nil _⟩⟩
  have hentered' : Entered f [] [Sample.sourceName] := entered_cons.2 ⟨by simp, entered_nil _⟩
  refine ⟨Sample.isTree_nestedDisk, f, hf, horder, ?_, ?_, by decide⟩
  · exact (hmem _).2 ⟨[Sample.innerDir, Sample.brokenName],
      ⟨_, [], hstart, .entry (.tail _ (.head _)) (.entry (.head _) (.here _))⟩,
      by decide, hinner, hentered⟩
  · exact (hmem _).2 ⟨[Sample.sourceName], ⟨_, [], hstart, .entry (.head _) (.here _)⟩,
      by decide, hsource, hentered'⟩

end Discovery

end CustomProps
