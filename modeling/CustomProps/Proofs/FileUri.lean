import CustomProps.Proofs.Lines
import CustomProps.Proofs.Utf8
import CustomProps.Uri.File

/-!
The URI of a file names its path. A component is written as one segment, which has no slash in it
and decodes to the component's own bytes, so that the components of a path can be read off its URI:
two paths that name different places have different URIs.
-/

namespace CustomProps

namespace Percent

theorem value?_upper : ∀ n < 16, Hex.value? (Hex.upper n) = some n := by decide

/-- A byte that was written as its two digits. -/
theorem decode_encodeByte (b : UInt8) (t : Text) : decode (encodeByte b ++ t) = b :: decode t := by
  have hb : b.toNat < 256 := b.toNat_lt
  have hhigh := value?_upper (b.toNat / 16) (by omega)
  have hlow := value?_upper (b.toNat % 16) (by omega)
  have he : 16 * (b.toNat / 16) + b.toNat % 16 = b.toNat := by omega
  simp [encodeByte, decode, hhigh, hlow, he]

theorem decode_cons {c : Char} (hc : c ≠ '%') (t : Text) :
    decode (c :: t) = Text.utf8 [c] ++ decode t := by
  rw [decode]
  intro h l t' he
  exact absurd he hc

/-- Bytes come back from their written form, if the percent sign itself is written by its digits. -/
theorem decode_encodeBytes (reserved : Char → Bool) (hr : reserved '%' = true) (bs : Bytes)
    (t : Text) : decode (encodeBytes reserved bs ++ t) = bs ++ decode t := by
  induction bs with
  | nil => rfl
  | cons b bs ih =>
    rw [encodeBytes, List.flatMap_cons, List.append_assoc]
    simp only
    split
    · rw [decode_encodeByte]
      exact congrArg (b :: ·) ih
    · rename_i hb
      simp only [Bool.or_eq_true, decide_eq_true_eq, not_or] at hb
      have hc : Char.ofNat b.toNat ≠ '%' := by
        intro he
        rw [he] at hb
        exact hb.2 hr
      have hlt : b.toNat < 128 := by
        have h := UInt8.not_lt.1 hb.1.2
        have h' : b.toNat ≤ 0x7E := UInt8.le_iff_toNat_le.1 h
        omega
      rw [List.singleton_append, decode_cons hc]
      have hn : (Char.ofNat b.toNat).toNat = b.toNat := by
        rw [Char.ofNat, dif_pos (Or.inl (by omega))]
        rfl
      have hu : Text.utf8 [Char.ofNat b.toNat] = [b] := by
        rw [Text.utf8_cons_of_lt (by rwa [hn]), Text.byte, hn, UInt8.ofNat_toNat]
        rfl
      rw [hu]
      exact congrArg (b :: ·) ih

theorem slash_not_mem_encodeByte (b : UInt8) : '/' ∉ encodeByte b := by
  have hd : ∀ n < 16, '/' ≠ Hex.upper n := by decide
  have hb : b.toNat < 256 := b.toNat_lt
  have hhigh := hd (b.toNat / 16) (by omega)
  have hlow := hd (b.toNat % 16) (by omega)
  simp [encodeByte, hhigh, hlow]

theorem slash_not_mem_encodeBytes {reserved : Char → Bool} (hr : reserved '/' = true)
    (bs : Bytes) : '/' ∉ encodeBytes reserved bs := by
  intro h
  obtain ⟨b, -, hb⟩ := List.mem_flatMap.1 h
  simp only at hb
  split at hb
  · exact slash_not_mem_encodeByte b hb
  · rename_i hn
    rw [List.mem_singleton] at hb
    simp [← hb, hr] at hn

end Percent

namespace Text

/-- Splitting at a separator undoes writing it before each of the pieces. -/
theorem split_flatMap {sep : Char} {pieces : List Text} (hn : pieces ≠ [])
    (h : ∀ piece ∈ pieces, sep ∉ piece) :
    split sep ((pieces.flatMap (sep :: ·)).drop 1) = pieces := by
  induction pieces with
  | nil => exact absurd rfl hn
  | cons piece pieces ih =>
    have hp := h piece List.mem_cons_self
    cases pieces with
    | nil => simpa using split_of_not_mem hp
    | cons next rest =>
      have ht := ih (by simp) fun q hq => h q (List.mem_cons_of_mem _ hq)
      rw [List.flatMap_cons, List.flatMap_cons] at *
      simpa [split_append hp] using ht

end Text

/-- The bytes that a component is written with in a path. -/
def Component.bytes : Component → Bytes
  | .root | .here => []
  | .up => [Path.point, Path.point]
  | .name bytes => bytes

/-- A component inside a path comes back from its bytes, and has some. -/
theorem Path.componentOf_bytes {ps : List Bytes} {c : Component} (h : c ∈ Path.inner ps) :
    Path.componentOf c.bytes = c ∧ c.bytes ≠ [] := by
  obtain ⟨piece, hp, rfl⟩ := List.mem_map.1 h
  have hi := (List.mem_filter.1 hp).2
  unfold componentOf
  split
  · exact ⟨rfl, by simp [Component.bytes]⟩
  · rename_i hup
    refine ⟨by simp [Component.bytes, hup], ?_⟩
    intro he
    simp [Component.bytes] at he
    simp [he, isIdle] at hi

/-- Only an absolute path starts with the root. -/
theorem Path.isAbsolute_of_components {p : Path} {rest : List Component}
    (h : Path.components p = .root :: rest) : Path.isAbsolute p = true := by
  unfold components at h
  split at h
  · assumption
  · split at h
    · cases h
    · have hm : Component.root ∈ inner (pieces p) := by rw [h]; exact List.mem_cons_self
      obtain ⟨piece, -, hp⟩ := List.mem_map.1 hm
      unfold componentOf at hp
      split at hp <;> cases hp

/-- Behind the root of a path stand its inner components. -/
theorem Path.eq_inner_of_components {p : Path} {rest : List Component}
    (h : Path.components p = .root :: rest) : rest = Path.inner (Path.pieces (p.drop 1)) := by
  rw [components, if_pos (isAbsolute_of_components h)] at h
  cases h
  rfl

namespace Uri

theorem decode_segmentOf (c : Component) : Percent.decode (segmentOf c) = c.bytes := by
  cases c with
  | root => rfl
  | here => rfl
  | up => decide
  | name bytes =>
    have h := Percent.decode_encodeBytes inSegment (by decide) bytes []
    rw [List.append_nil, Percent.decode, List.append_nil] at h
    exact h

theorem slash_not_mem_segmentOf (c : Component) : '/' ∉ segmentOf c := by
  cases c with
  | root => simp [segmentOf]
  | here => simp [segmentOf]
  | up => decide
  | name bytes => exact Percent.slash_not_mem_encodeBytes (by decide) bytes

/-- The components below the root that a file's URI spells. -/
def spelled (u : Uri) : List Component :=
  if u.path = ['/'] then []
  else (Text.split '/' (u.path.drop 1)).map fun s => Path.componentOf (Percent.decode s)

/-- Segments written for components spell these components. -/
theorem spelled_of_path {ps : List Bytes} {u : Uri} (hn : Path.inner ps ≠ [])
    (hp : u.path = (Path.inner ps).flatMap ('/' :: segmentOf ·)) :
    u.spelled = Path.inner ps := by
  have hflat : u.path = ((Path.inner ps).map segmentOf).flatMap ('/' :: ·) := by
    rw [hp, List.flatMap_map]
  have hsplit : Text.split '/' (u.path.drop 1) = (Path.inner ps).map segmentOf := by
    rw [hflat]
    apply Text.split_flatMap (by simpa using hn)
    intro s hs
    obtain ⟨c, -, rfl⟩ := List.mem_map.1 hs
    exact slash_not_mem_segmentOf c
  have hback : ((Path.inner ps).map segmentOf).map
      (fun s => Path.componentOf (Percent.decode s)) = Path.inner ps := by
    rw [List.map_map]
    conv => rhs; rw [← List.map_id (Path.inner ps)]
    apply List.map_congr_left
    intro c hc
    simp only [Function.comp, decode_segmentOf, id]
    exact (Path.componentOf_bytes hc).1
  rw [spelled, hsplit, hback]
  split
  · rename_i hroot
    -- A lone slash would be one segment without a byte in it.
    rw [hroot] at hsplit
    obtain ⟨c, hc⟩ := List.exists_mem_of_ne_nil _ hn
    have hs : segmentOf c ∈ [([] : Text)] := by
      rw [← show Text.split '/' (['/'].drop 1) = [[]] from rfl, hsplit]
      exact List.mem_map_of_mem hc
    have hb := decode_segmentOf c
    rw [List.mem_singleton.1 hs] at hb
    exact absurd hb.symm (Path.componentOf_bytes hc).2
  · rfl

/-- The components of a path can be read off its URI. -/
theorem components_of_ofFilePath? {p : Path} {u : Uri} (h : ofFilePath? p = some u) :
    Path.components p = .root :: u.spelled := by
  unfold ofFilePath? at h
  split at h
  · rename_i hp
    cases h
    rw [hp]
    rfl
  · rename_i rest hne hp
    have hr := Path.eq_inner_of_components hp
    have hn : rest ≠ [] := hne
    cases h
    rw [hp, hr]
    rw [hr] at hn
    exact congrArg _ (spelled_of_path hn rfl).symm
  · cases h

end Uri

end CustomProps
