import CustomProps.Proofs.GlobLanguage
import CustomProps.Workspace.Scan
import Mathlib.Data.List.Permutation

/-!
What discovery finds. A walk goes through the entries of directories and follows no link, so it
reaches the files that lie at some names below its root. A root lists the reached files that the
filter accepts, unless a directory on the way is ignored. Where every ignore pattern seals
directories, no accepted file lies in an ignored directory, and nothing is lost by not entering it.
-/

namespace CustomProps

namespace Bytes

theorem slash_lt_of_owed {b low high : UInt8} {n : Nat} (h : owed b = some (n, low, high)) :
    Path.slash < low := by
  unfold owed at h
  split_ifs at h <;> cases h <;> decide

/-- A character does not go on over a slash. -/
theorem continuation_append_slash (n : Nat) {low : UInt8} (hl : Path.slash < low) (high : UInt8)
    (bits : Nat) (as bs : Bytes) :
    continuation n low high bits (as ++ Path.slash :: bs) = continuation n low high bits as ∧
      (continuation n low high bits as).2 ≤ as.length := by
  induction n generalizing low high bits as with
  | zero => simp [continuation]
  | succ n ih =>
    cases as with
    | nil => simp [continuation, UInt8.not_le.2 hl]
    | cons a as =>
      have hlow : Path.slash < 0x80 := by decide
      obtain ⟨he, hle⟩ := ih hlow 0xBF (bits * 0x40 + a.toNat % 0x40) as
      simp only [List.cons_append, continuation, he, List.length_cons, true_and]
      split
      · exact Nat.succ_le_succ hle
      · exact Nat.zero_le _

theorem readChar_append_slash (a : UInt8) (as bs : Bytes) :
    readChar a (as ++ Path.slash :: bs) = readChar a as ∧ (readChar a as).2 ≤ as.length := by
  unfold readChar
  split
  · exact ⟨rfl, Nat.zero_le _⟩
  · rename_i h
    exact continuation_append_slash _ (slash_lt_of_owed h) _ _ as bs

theorem chars_append_slash (as bs : Bytes) :
    chars (as ++ Path.slash :: bs) = chars as ++ some '/' :: chars bs := by
  match as with
  | [] =>
    have hread : readChar Path.slash bs = (some '/', 0) := rfl
    rw [List.nil_append, chars.eq_def (Path.slash :: bs)]
    simp [hread, chars]
  | a :: as =>
    obtain ⟨he, hle⟩ := readChar_append_slash a as bs
    rw [List.cons_append, chars, he, List.drop_append_of_le_length hle, chars_append_slash, chars]
    rfl
termination_by as.length
decreasing_by simp only [List.length_drop, List.length_cons]; omega

end Bytes

namespace SourceFilter

variable {f : SourceFilter}

theorem visible_append_slash (p q : Path) :
    visible (p ++ Path.slash :: q) = visible p ++ Path.slash :: visible q := by
  have hslash : String.utf8EncodeChar '/' = [Path.slash] := by decide
  simp [visible, Bytes.decodeLossy, Bytes.chars_append_slash, hslash]

/-- Settings whose filter passes a check have a filter. -/
theorem exists_ok_of_any {s : Settings} {check : SourceFilter → Bool}
    (h : (ofSettings s).toOption.any check = true) :
    ∃ f, ofSettings s = .ok f ∧ check f = true := by
  cases hf : ofSettings s with
  | error e => simp [hf, Except.toOption] at h
  | ok f => exact ⟨f, rfl, by simpa [hf, Except.toOption] using h⟩

/-- A directory that is ignored holds nothing that is accepted, if the ignore patterns seal
directories. -/
theorem not_accepts_below (hs : ∀ g ∈ f.ignore, g.sealsDirs = true) {dir : Path}
    (hd : f.ignoresDir dir = true) (rest : Path) :
    f.accepts (dir ++ Path.slash :: rest) = false := by
  obtain ⟨g, hg, ha⟩ := List.any_eq_true.1 hd
  have hb : f.ignore.accepts (visible (dir ++ Path.slash :: rest)) = true := by
    rw [visible_append_slash]
    exact List.any_eq_true.2 ⟨g, hg, Glob.accepts_below (hs g hg) ha _⟩
  simp [accepts, hb]

end SourceFilter

namespace Path

/-- The path at the given names below a base. -/
def under (base : Path) (names : List Bytes) : Path := names.foldl child base

@[simp] theorem under_nil (base : Path) : under base [] = base := rfl

@[simp] theorem under_cons (base : Path) (name : Bytes) (names : List Bytes) :
    under base (name :: names) = under (child base name) names := rfl

theorem under_append (base : Path) (front back : List Bytes) :
    under base (front ++ back) = under (under base front) back :=
  List.foldl_append

/-- Whether bytes can name an entry of a directory. -/
def IsName (name : Bytes) : Prop := name ≠ [] ∧ slash ∉ name

instance (name : Bytes) : Decidable (IsName name) :=
  inferInstanceAs (Decidable (name ≠ [] ∧ slash ∉ name))

theorem IsName.getLast?_append {name : Bytes} (h : IsName name) (p : Path) :
    (p ++ name).getLast? ≠ some slash := by
  intro hl
  rw [List.getLast?_append, Option.or_of_isSome (by simp [h.1])] at hl
  exact h.2 (List.mem_of_getLast? hl)

theorem child_of_ne {dir : Path} (hne : dir ≠ []) (hl : dir.getLast? ≠ some slash) (name : Bytes) :
    child dir name = dir ++ slash :: name := by
  simp [child, hne, hl]

/-- What lies below a directory is spelled after the directory's path, with a slash before each of
the names. -/
theorem under_eq_append {dir : Path} (hne : dir ≠ []) (hl : dir.getLast? ≠ some slash)
    {names : List Bytes} (hnames : ∀ name ∈ names, IsName name) :
    under dir names = dir ++ names.flatMap (slash :: ·) := by
  induction names generalizing dir with
  | nil => simp
  | cons name names ih =>
    have hl' := (hnames name List.mem_cons_self).getLast?_append (dir ++ [slash])
    rw [List.append_assoc, List.singleton_append] at hl'
    rw [under_cons, child_of_ne hne hl,
      ih (by simp) hl' fun n h => hnames n (List.mem_cons_of_mem _ h), List.flatMap_cons,
      List.append_assoc]

/-- The path at some names is not empty and does not end with a slash. -/
theorem under_full {names : List Bytes} (hn : names ≠ []) (hnames : ∀ name ∈ names, IsName name) :
    under [] names ≠ [] ∧ (under [] names).getLast? ≠ some slash := by
  obtain ⟨init, name, rfl⟩ : ∃ init name, names = init ++ [name] :=
    ⟨_, _, (List.dropLast_concat_getLast hn).symm⟩
  have hname : IsName name := hnames name (by simp)
  have hchild : ∃ p, under [] (init ++ [name]) = p ++ name := by
    rw [under_append, under_cons, under_nil, child]
    split
    · exact ⟨under [] init, rfl⟩
    · exact ⟨under [] init ++ [slash], by simp⟩
  obtain ⟨p, hp⟩ := hchild
  rw [hp]
  exact ⟨by simp [hname.1], hname.getLast?_append p⟩

end Path

namespace Node

/-- What lies at the given names below a node. Links are not followed. -/
inductive Holds : Node → List Bytes → Node → Prop
  | here (node : Node) : Holds node [] node
  | entry {entries : List (Bytes × Node)} {name : Bytes} {child : Node} {names : List Bytes}
      {node : Node} : (name, child) ∈ entries → Holds child names node →
      Holds (.dir entries) (name :: names) node

theorem Holds.trans {a b c : Node} {front back : List Bytes} (h : a.Holds front b)
    (h' : b.Holds back c) : a.Holds (front ++ back) c := by
  induction h with
  | here => exact h'
  | entry hm _ ih => exact .entry hm (ih h')

theorem holds_of_get? {a b : Node} {names : List Bytes} (h : a.get? names = some b) :
    a.Holds names b := by
  induction names generalizing a with
  | nil =>
    cases h
    exact .here _
  | cons name names ih =>
    obtain ⟨child, hc, hg⟩ := Option.bind_eq_some_iff.1 h
    cases a with
    | file content => cases hc
    | link target => cases hc
    | dir entries =>
      obtain ⟨⟨n, c⟩, hf, rfl⟩ := Option.map_eq_some_iff.1 hc
      have hn : n = name := by simpa using List.find?_some hf
      exact .entry (hn ▸ List.mem_of_find?_eq_some hf) (ih hg)

/-- A file is held at no names by itself, and at some names by a directory. -/
theorem Holds.isDir_iff {a : Node} {names : List Bytes} {content : Bytes}
    (h : a.Holds names (.file content)) : a.isDir = true ↔ names ≠ [] := by
  cases h with
  | here => simp [isDir]
  | entry => simp [isDir]

/-- Whether the names of all entries below a node satisfy `P`. -/
def Names (P : Bytes → Prop) (node : Node) : Prop :=
  ∀ names below, node.Holds names below → ∀ name ∈ names, P name

theorem names_file (P : Bytes → Prop) (content : Bytes) : (Node.file content).Names P := by
  intro names below h name hn
  cases h
  cases hn

theorem names_dir {P : Bytes → Prop} {entries : List (Bytes × Node)} :
    (Node.dir entries).Names P ↔ ∀ e ∈ entries, P e.1 ∧ e.2.Names P := by
  constructor
  · rintro h ⟨name, child⟩ hm
    refine ⟨h [name] child (.entry hm (.here _)) name List.mem_cons_self, ?_⟩
    intro names below hh n hn
    exact h (name :: names) below (.entry hm hh) n (List.mem_cons_of_mem _ hn)
  · intro h names below hh name hn
    cases hh with
    | here => cases hn
    | entry hm hh =>
      rcases List.mem_cons.1 hn with rfl | hn
      · exact (h _ hm).1
      · exact (h _ hm).2 _ _ hh name hn

/-- Whether all entries below a node have names. -/
def Proper (node : Node) : Prop :=
  ∀ names below, node.Holds names below → ∀ name ∈ names, Path.IsName name

theorem proper_iff {node : Node} : node.Proper ↔ node.Names Path.IsName := Iff.rfl

end Node

namespace Discovery

variable {f : SourceFilter}

/-- Whether no directory on the way to the given names is ignored. -/
def Entered (f : SourceFilter) (relative : Path) (names : List Bytes) : Prop :=
  ∀ front back, names = front ++ back → front ≠ [] → back ≠ [] →
    f.ignoresDir (Path.under relative front) = false

theorem entered_nil (relative : Path) : Entered f relative [] := by
  intro front back he hf _
  exact absurd (List.append_eq_nil_iff.1 he.symm).1 hf

theorem entered_cons {relative : Path} {name : Bytes} {names : List Bytes} :
    Entered f relative (name :: names) ↔
      (names ≠ [] → f.ignoresDir (Path.child relative name) = false) ∧
        Entered f (Path.child relative name) names := by
  constructor
  · intro h
    refine ⟨fun hn => h [name] names rfl (by simp) hn, ?_⟩
    rintro front back rfl - hb
    exact h (name :: front) back rfl (by simp) hb
  · rintro ⟨hd, h⟩ front back he hf hb
    cases front with
    | nil => exact absurd rfl hf
    | cons n front =>
      cases he
      by_cases hs : front = []
      · rw [hs]
        exact hd (by simp [hb])
      · exact h front back rfl hs hb

theorem mem_inOrder {found : List (Bytes × List Path)} {p : Path} :
    p ∈ inOrder found ↔ ∃ e ∈ found, p ∈ e.2 := by
  simp [inOrder, List.mem_flatMap, List.mem_mergeSort]

/-- A directory lists the files of its entries, but for those of directories that are ignored. -/
theorem mem_walkEntries {relative : Path} {entries : List (Bytes × Node)} {p : Path} :
    (∃ e ∈ walkEntries f relative entries, p ∈ e.2) ↔ ∃ name child, (name, child) ∈ entries ∧
      (child.isDir = true → f.ignoresDir (Path.child relative name) = false) ∧
        p ∈ walk f (Path.child relative name) child := by
  induction entries with
  | nil => simp [walkEntries]
  | cons entry entries ih =>
    obtain ⟨name, node⟩ := entry
    have hhead : p ∈ (if node.isDir && f.ignoresDir (Path.child relative name) then []
          else walk f (Path.child relative name) node) ↔
        (node.isDir = true → f.ignoresDir (Path.child relative name) = false) ∧
          p ∈ walk f (Path.child relative name) node := by
      cases node.isDir <;> cases f.ignoresDir (Path.child relative name) <;> simp
    rw [walkEntries]
    simp only [List.mem_cons, or_and_right, exists_or, exists_eq_left, ih, hhead]
    simp

/-- A walk lists the accepted files that it reaches through directories that are not ignored. -/
theorem mem_walk {relative : Path} (node : Node) {p : Path} :
    p ∈ walk f relative node ↔ ∃ names content, node.Holds names (.file content) ∧
      p = Path.under relative names ∧ f.accepts p = true ∧ Entered f relative names := by
  match node with
  | .file content =>
    rw [walk]
    constructor
    · intro hp
      split at hp
      · rename_i ha
        rw [List.mem_singleton] at hp
        exact ⟨[], content, .here _, hp, hp ▸ ha, entered_nil relative⟩
      · cases hp
    · rintro ⟨names, content, hh, rfl, ha, -⟩
      cases hh
      simpa using ha
  | .link target =>
    rw [walk]
    constructor
    · intro hp
      cases hp
    · rintro ⟨names, content, hh, -⟩
      cases hh
  | .dir entries =>
    rw [walk, mem_inOrder, mem_walkEntries]
    constructor
    · rintro ⟨name, child, hm, hd, hp⟩
      obtain ⟨names, content, hh, rfl, ha, he⟩ := (mem_walk child).1 hp
      exact ⟨name :: names, content, .entry hm hh, rfl, ha,
        entered_cons.2 ⟨fun hn => hd (hh.isDir_iff.2 hn), he⟩⟩
    · rintro ⟨names, content, hh, rfl, ha, he⟩
      cases hh with
      | @entry _ name child names _ hm hh =>
        obtain ⟨hd, he⟩ := entered_cons.1 he
        exact ⟨name, child, hm, fun h => hd (hh.isDir_iff.1 h),
          (mem_walk child).2 ⟨names, content, hh, rfl, ha, he⟩⟩
termination_by sizeOf node
decreasing_by
  all_goals
    have hlt := List.sizeOf_lt_of_mem hm
    simp only [Prod.mk.sizeOf_spec, Node.dir.sizeOf_spec] at hlt ⊢
    omega

/-- Where the walk of a root starts. A root that is a link is followed to a directory. -/
def start? (d : Disk) (root : Path) : Option Node :=
  match d.entry? root with
  | some (.link _) => (d.node? root).filter Node.isDir
  | found => found

/-- Whether a file lies at the given names below a root. -/
def Reaches (d : Disk) (root : Path) (names : List Bytes) : Prop :=
  ∃ tree content, start? d root = some tree ∧ tree.Holds names (.file content)

/-- How a file below a root is listed. -/
def spelling (root : Path) (names : List Bytes) : Path :=
  if names.isEmpty then root else Path.child root (Path.under [] names)

/-- A file in a directory is spelled after the root. -/
theorem spelling_of_holds {entries : List (Bytes × Node)} {names : List Bytes} {content : Bytes}
    (h : (Node.dir entries).Holds names (.file content)) (root : Path) :
    spelling root names = Path.child root (Path.under [] names) := by
  simp [spelling, h.isDir_iff.1 rfl]

theorem below_eq (d : Disk) (f : SourceFilter) (root : Path) :
    below d f root = match start? d root with
      | some (.dir entries) => (walk f [] (.dir entries)).map (Path.child root)
      | some (.file _) => if f.accepts [] then [root] else []
      | _ => [] := by
  unfold below start?
  split
  · rename_i h
    simp [h]
  · rename_i h
    rw [h]
    cases d.node? root with
    | none => rfl
    | some node => cases node <;> rfl
  · rename_i h
    simp [h, below.spelled]
  · rename_i h
    simp [h]

/-- A root lists the accepted files that it reaches through directories that are not ignored. -/
theorem mem_below {d : Disk} {root p : Path} :
    p ∈ below d f root ↔ ∃ names, Reaches d root names ∧ p = spelling root names ∧
      f.accepts (Path.under [] names) = true ∧ Entered f [] names := by
  rw [below_eq]
  cases hs : start? d root with
  | none => simp [Reaches, hs]
  | some tree =>
    have hreaches : ∀ names,
        Reaches d root names ↔ ∃ content, tree.Holds names (.file content) := by
      intro names
      simp [Reaches, hs]
    simp only [hreaches]
    cases tree with
    | link target =>
      constructor
      · intro hp
        cases hp
      · rintro ⟨names, ⟨content, hh⟩, -⟩
        cases hh
    | file content =>
      constructor
      · intro hp
        dsimp only at hp
        split at hp
        · rename_i ha
          rw [List.mem_singleton] at hp
          exact ⟨[], ⟨content, .here _⟩, hp, ha, entered_nil []⟩
        · cases hp
      · rintro ⟨names, ⟨content, hh⟩, rfl, ha, -⟩
        cases hh
        simpa [spelling] using ha
    | dir entries =>
      simp only [List.mem_map, mem_walk]
      constructor
      · rintro ⟨-, ⟨names, content, hh, rfl, ha, he⟩, rfl⟩
        exact ⟨names, ⟨content, hh⟩, (spelling_of_holds hh root).symm, ha, he⟩
      · rintro ⟨names, ⟨content, hh⟩, rfl, ha, he⟩
        exact ⟨_, ⟨names, content, hh, rfl, ha, he⟩, (spelling_of_holds hh root).symm⟩

/-- Leaving out what names the same place as something earlier leaves out no place. -/
theorem exists_mem_distinct {ps : List Path} {p : Path} :
    (∃ q ∈ distinct ps, Path.same p q = true) ↔ ∃ q ∈ ps, Path.same p q = true := by
  induction ps with
  | nil => rfl
  | cons r ps ih =>
    constructor
    · rintro ⟨q, hq, hs⟩
      rcases List.mem_cons.1 hq with rfl | hq
      · exact ⟨q, List.mem_cons_self, hs⟩
      · obtain ⟨q', hq', hs'⟩ := ih.1 ⟨q, (List.mem_filter.1 hq).1, hs⟩
        exact ⟨q', List.mem_cons_of_mem r hq', hs'⟩
    · rintro ⟨q, hq, hs⟩
      by_cases hr : Path.same p r = true
      · exact ⟨r, List.mem_cons_self, hr⟩
      · have hq : q ∈ ps := (List.mem_cons.1 hq).resolve_left fun he => hr (he ▸ hs)
        obtain ⟨q', hq', hs'⟩ := ih.2 ⟨q, hq, hs⟩
        -- Both `p` and `r` would name the place of `q'`.
        have hne : Path.same r q' ≠ true := by
          intro h
          simp only [Path.same, beq_iff_eq] at h hs' hr
          exact hr (hs'.trans h.symm)
        exact ⟨q', List.mem_cons_of_mem r (List.mem_filter.2 ⟨hq', by simpa using hne⟩), hs'⟩

/-- A walk starts somewhere on the disk. -/
theorem exists_holds_of_start? {d : Disk} {root : Path} {tree : Node}
    (h : start? d root = some tree) : ∃ place, d.root.Holds place tree := by
  have hplace : ∀ follow, (d.place? follow root).bind d.root.get? = some tree →
      ∃ place, d.root.Holds place tree := by
    intro follow hn
    obtain ⟨place, -, hg⟩ := Option.bind_eq_some_iff.1 hn
    exact ⟨place, Node.holds_of_get? hg⟩
  unfold start? at h
  split at h
  · exact hplace true (Option.filter_eq_some_iff.1 h).1
  · exact hplace false h

theorem names_of_start? {d : Disk} {P : Bytes → Prop} (h : d.root.Names P) {root : Path}
    {tree : Node} (hs : start? d root = some tree) : tree.Names P := by
  obtain ⟨place, hp⟩ := exists_holds_of_start? hs
  intro names below hh name hm
  exact h _ _ (hp.trans hh) name (List.mem_append_right _ hm)

/-- An accepted file lies in no ignored directory, if the ignore patterns seal directories. -/
theorem entered_of_accepts (hs : ∀ g ∈ f.ignore, g.sealsDirs = true) {names : List Bytes}
    (hnames : ∀ name ∈ names, Path.IsName name)
    (ha : f.accepts (Path.under [] names) = true) : Entered f [] names := by
  rintro front back rfl hf hb
  obtain ⟨hne, hl⟩ := Path.under_full hf fun name h => hnames name (List.mem_append_left _ h)
  obtain ⟨name, back, rfl⟩ := List.exists_cons_of_ne_nil hb
  rw [Path.under_append, Path.under_eq_append hne hl fun name h =>
    hnames name (List.mem_append_right _ h), List.flatMap_cons, List.cons_append] at ha
  rw [Bool.eq_false_iff]
  intro hd
  rw [SourceFilter.not_accepts_below hs hd] at ha
  cases ha

/-- Whether discovery lists a place. -/
def Lists (d : Disk) (f : SourceFilter) (roots : List Path) (p : Path) : Prop :=
  ∃ q ∈ sources d f roots, Path.same p q = true

theorem lists_iff {d : Disk} {roots : List Path} {p : Path} :
    Lists d f roots p ↔ ∃ root ∈ roots, ∃ names, Reaches d root names ∧
      Path.same p (spelling root names) = true ∧ f.accepts (Path.under [] names) = true ∧
        Entered f [] names := by
  rw [Lists, sources, exists_mem_distinct]
  constructor
  · rintro ⟨q, hq, hs⟩
    obtain ⟨root, hr, hm⟩ := List.mem_flatMap.1 hq
    obtain ⟨names, hn, rfl, ha⟩ := mem_below.1 hm
    exact ⟨root, hr, names, hn, hs, ha⟩
  · rintro ⟨root, hr, names, hn, hs, ha⟩
    exact ⟨_, List.mem_flatMap.2 ⟨root, hr, mem_below.2 ⟨names, hn, rfl, ha⟩⟩, hs⟩

/-- Discovery lists the accepted files that a root reaches through directories that are not ignored.
Where the ignore patterns seal directories, these are all accepted files that a root reaches. -/
theorem lists_accepted_files (d : Disk) (f : SourceFilter) (roots : List Path) (p : Path) :
    (Lists d f roots p ↔ ∃ root ∈ roots, ∃ names, Reaches d root names ∧
      Path.same p (spelling root names) = true ∧ f.accepts (Path.under [] names) = true ∧
        Entered f [] names) ∧
    (d.root.Proper → (∀ g ∈ f.ignore, g.sealsDirs = true) →
      (Lists d f roots p ↔ ∃ root ∈ roots, ∃ names, Reaches d root names ∧
        Path.same p (spelling root names) = true ∧ f.accepts (Path.under [] names) = true)) := by
  refine ⟨lists_iff, ?_⟩
  intro hproper hseals
  rw [lists_iff]
  constructor
  · rintro ⟨root, hr, names, hn, hs, ha, -⟩
    exact ⟨root, hr, names, hn, hs, ha⟩
  · rintro ⟨root, hr, names, hn, hs, ha⟩
    obtain ⟨tree, content, ht, hh⟩ := hn
    have hnames := names_of_start? (Node.proper_iff.1 hproper) ht names _ hh
    exact ⟨root, hr, names, ⟨tree, content, ht, hh⟩, hs, ha,
      entered_of_accepts hseals hnames ha⟩

end Discovery

/-! A disk with one source, in a directory of a workspace folder. -/

namespace Sample

def sourceName : Bytes := Text.utf8 "a.globals.ts".toList

def workspace : Path := Text.utf8 "/w".toList

/-- The disk where the source lies in the directory of the given name. -/
def diskWith (dir : Bytes) : Disk :=
  ⟨.dir [(Text.utf8 "w".toList, .dir [(dir, .dir [(sourceName, .file [])])])]⟩

def distDir : Bytes := Text.utf8 "dist".toList

def srcDir : Bytes := Text.utf8 "src".toList

/-- Settings that leave out one directory, named with its slash. -/
def distSettings : Settings := { Settings.default with ignoreGlobs := ["dist/".toList] }

theorem proper_diskWith {dir : Bytes} (h : Path.IsName dir) : (diskWith dir).root.Proper := by
  have hw : Path.IsName (Text.utf8 "w".toList) := by decide
  have hf : Path.IsName sourceName := by decide
  simp only [diskWith, Node.proper_iff, Node.names_dir, List.mem_singleton, forall_eq]
  exact ⟨hw, h, hf, Node.names_file _ []⟩

theorem start?_diskWith (dir : Bytes) : Discovery.start? (diskWith dir) workspace =
    some (.dir [(dir, .dir [(sourceName, .file [])])]) := by
  have hentry : Disk.entry? (diskWith dir) workspace =
      some (.dir [(dir, .dir [(sourceName, .file [])])]) := by cbv
  rw [Discovery.start?, hentry]

/-- The source is what the folder reaches. -/
theorem reaches_diskWith (dir : Bytes) :
    Discovery.Reaches (diskWith dir) workspace [dir, sourceName] :=
  ⟨_, [], start?_diskWith dir,
    .entry List.mem_cons_self (.entry List.mem_cons_self (.here _))⟩

end Sample

namespace Discovery

theorem lists_accepted_files_of_sample :
    ∃ f, SourceFilter.ofSettings Settings.default = .ok f ∧
      (Sample.diskWith Sample.srcDir).root.Proper ∧ (∀ g ∈ f.ignore, g.sealsDirs = true) ∧
      Lists (Sample.diskWith Sample.srcDir) f [Sample.workspace]
        (Text.utf8 "/w/src/a.globals.ts".toList) := by
  have hchecks : (SourceFilter.ofSettings Settings.default).toOption.any (fun f =>
      f.ignore.all Glob.sealsDirs &&
        f.accepts (Path.under [] [Sample.srcDir, Sample.sourceName])) = true := by decide +kernel
  obtain ⟨f, hf, hc⟩ := SourceFilter.exists_ok_of_any hchecks
  rw [Bool.and_eq_true, List.all_eq_true] at hc
  obtain ⟨hseals, ha⟩ := hc
  have hname : Path.IsName Sample.srcDir := by decide
  have hproper := Sample.proper_diskWith hname
  refine ⟨f, hf, hproper, hseals, ?_⟩
  apply ((lists_accepted_files _ f _ _).2 hproper hseals).2
  exact ⟨_, List.mem_cons_self, _, Sample.reaches_diskWith Sample.srcDir, by decide, ha⟩

/-- Not every accepted file is listed: an ignore pattern that ends with a slash matches a directory
and nothing below it. -/
theorem ignored_dir_hides_accepted_file :
    ¬ ∀ (d : Disk) (settings : Settings) (f : SourceFilter) (roots : List Path) (p : Path),
      d.root.Proper → SourceFilter.ofSettings settings = .ok f →
        (Lists d f roots p ↔ ∃ root ∈ roots, ∃ names, Reaches d root names ∧
          Path.same p (spelling root names) = true ∧
          f.accepts (Path.under [] names) = true) := by
  intro h
  have hchecks : (SourceFilter.ofSettings Sample.distSettings).toOption.any (fun f =>
      f.ignoresDir Sample.distDir &&
        f.accepts (Path.under [] [Sample.distDir, Sample.sourceName])) = true := by decide +kernel
  obtain ⟨f, hf, hc⟩ := SourceFilter.exists_ok_of_any hchecks
  rw [Bool.and_eq_true] at hc
  obtain ⟨hd, ha⟩ := hc
  have hname : Path.IsName Sample.distDir := by decide
  have hlists := (h _ _ f [Sample.workspace] _ (Sample.proper_diskWith hname) hf).2
    ⟨_, List.mem_cons_self, _, Sample.reaches_diskWith Sample.distDir, beq_self_eq_true _, ha⟩
  obtain ⟨root, hr, names, ⟨tree, content, ht, hh⟩, -, -, he⟩ := lists_iff.1 hlists
  rw [List.mem_singleton] at hr
  rw [hr, Sample.start?_diskWith] at ht
  cases ht
  cases hh with
  | entry hm hh =>
    cases List.mem_singleton.1 hm
    have hopen := (entered_cons.1 he).1 (hh.isDir_iff.1 rfl)
    rw [show Path.child [] Sample.distDir = Sample.distDir from rfl, hd] at hopen
    cases hopen

end Discovery

end CustomProps
