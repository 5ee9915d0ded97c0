import CustomProps.Proofs.Places

/-!
Sessions of edits. To open or change a document writes its text over the source of its URI, or adds
a source at the end; to close it brings back the text on the disk. So, while nothing else is sent
and the disk stays as it is, the sources of the start stand first in the list and in their order,
each with the text of its document if that is open. When no document is open any more, they are
what they were.
-/

namespace CustomProps

namespace Sources

variable {uri : Uri}

theorem holds_eq_false_iff {sources : Sources} :
    sources.holds uri = false ↔ ∀ s ∈ sources, s.uri ≠ uri := by
  simp [holds]

theorem revise_of_not_holds {sources : Sources} (h : sources.holds uri = false) (text : Text) :
    sources.revise uri text = sources := by
  rw [holds_eq_false_iff] at h
  induction sources with
  | nil => rfl
  | cons s sources ih =>
    obtain ⟨hs, ht⟩ := List.forall_mem_cons.1 h
    rw [revise, if_neg hs, ih ht]

/-- A new text goes to the first part of a list that has a source for it. -/
theorem revise_append (a b : Sources) (text : Text) :
    revise uri text (a ++ b) =
      if a.holds uri then a.revise uri text ++ b else a ++ b.revise uri text := by
  induction a with
  | nil => rfl
  | cons s a ih =>
    by_cases hs : s.uri = uri
    · simp [revise, holds, hs]
    · have hh : holds (s :: a) uri = holds a uri := by simp [holds, hs]
      rw [List.cons_append, revise, if_neg hs, ih, hh, revise, if_neg hs]
      split <;> rfl

/-- A text that is put among the sources revises those that come first, and no more. -/
theorem isPrefix_put {a sources : Sources} (h : a <+: sources) (uri : Uri) (text : Text) :
    a.revise uri text <+: sources.put uri text := by
  obtain ⟨b, rfl⟩ := h
  cases ha : a.holds uri with
  | true =>
    have hh : (a ++ b).holds uri = true := by
      rw [holds, List.any_append, Bool.or_eq_true]
      exact .inl ha
    rw [put, if_pos hh, revise_append, if_pos ha]
    exact List.prefix_append _ _
  | false =>
    rw [revise_of_not_holds ha, put]
    split
    · rw [revise_append, if_neg (by simp [ha])]
      exact List.prefix_append _ _
    · rw [List.append_assoc]
      exact List.prefix_append _ _

theorem isPrefix_drop {a sources : Sources} (h : a <+: sources) (ha : a.holds uri = false) :
    a <+: sources.drop uri := by
  obtain ⟨b, rfl⟩ := h
  have hkeep : a.filter (·.uri != uri) = a := by
    rw [List.filter_eq_self]
    intro s hs
    simpa using holds_eq_false_iff.1 ha s hs
  rw [drop, List.filter_append, hkeep]
  exact List.prefix_append _ _

theorem holds_of_isPrefix {a sources : Sources} (h : a <+: sources)
    (hs : sources.holds uri = false) : a.holds uri = false :=
  holds_eq_false_iff.2 fun s hm => holds_eq_false_iff.1 hs s (h.subset hm)

theorem holds_map_live (docs : Documents) (sources : Sources) :
    holds (sources.map (live docs)) uri = sources.holds uri := by
  simp [holds, List.any_map, Function.comp_def]

/-- Where documents differ at one URI only, the sources with their texts differ by one revision. -/
theorem map_live_eq_revise {sources : Sources} (h : sources.Distinct) {docs docs' : Documents}
    {text : Text} (htext : ∀ s ∈ sources, s.uri = uri → (live docs' s).text = text)
    (hother : ∀ other ≠ uri, docs'.get? other = docs.get? other) :
    sources.map (live docs') = revise uri text (sources.map (live docs)) := by
  rw [revise_eq_map (h.live docs), List.map_map]
  apply List.map_congr_left
  intro s hs
  rw [Function.comp_apply, uri_live]
  split
  · rename_i hu
    rw [← htext s hs hu]
    unfold live
    split <;> rfl
  · rename_i hu
    rw [live, hother s.uri hu, live]

theorem map_live_put {sources : Sources} (h : sources.Distinct) (docs : Documents) (uri : Uri)
    (doc : Document) :
    sources.map (live (docs.put uri doc)) = revise uri doc.text (sources.map (live docs)) := by
  apply map_live_eq_revise h
  · rintro s - rfl
    exact text_live (Documents.get?_put_self docs s.uri doc)
  · intro other hne
    exact Documents.get?_put_of_ne docs doc hne

/-- After a document is closed, its source has the text of its own again. -/
theorem map_live_close {sources : Sources} (h : sources.Distinct) (docs : Documents) {text : Text}
    (ht : ∀ s ∈ sources, s.uri = uri → s.text = text) :
    sources.map (live (docs.close uri)) = revise uri text (sources.map (live docs)) := by
  apply map_live_eq_revise h
  · intro s hs hu
    rw [live, hu, Documents.get?_close_self]
    exact ht s hs hu
  · intro other hne
    exact Documents.get?_close_of_ne docs hne

/-- A document that is no source is closed without a trace. -/
theorem map_live_close_of_not_holds {sources : Sources} (h : sources.holds uri = false)
    (docs : Documents) : sources.map (live (docs.close uri)) = sources.map (live docs) := by
  apply List.map_congr_left
  intro s hs
  rw [live, Documents.get?_close_of_ne docs (holds_eq_false_iff.1 h s hs), live]

/-- Whether every source has the text that is on the disk. -/
def Saved (d : Disk) (sources : Sources) : Prop :=
  ∀ source ∈ sources, source.uri.filePath?.bind d.readText? = some source.text

end Sources

/-- Whether a notice is about a document in the editor. -/
def Notice.isEdit : Notice → Bool
  | .opened _ _ _ | .changed _ _ | .closed _ => true
  | .ready _ | .files _ | .folders _ _ => false

namespace Server

/-- Whether the sources begin with those of `base`, each with the text of its document if that is
open. -/
def Begins (base : Sources) (s : Server) : Prop :=
  base.map (Sources.live s.documents) <+: s.sources

variable {base : Sources} {s : Server} {d : Disk}

theorem Coherent.begins (h : s.Coherent) : s.Begins s.sources := by
  have hlive : ∀ source ∈ s.sources, Sources.live s.documents source = source := by
    intro source hs
    rw [Sources.live]
    split
    · rename_i doc hdoc
      rw [← h.texts source hs doc hdoc]
    · rfl
  have hmap : s.sources.map (Sources.live s.documents) = s.sources := by
    rw [List.map_congr_left hlive, List.map_id']
  exact ⟨[], by rw [List.append_nil, hmap]⟩

theorem begins_of_closed (h : Begins base s) (hdocs : s.documents = []) : base <+: s.sources := by
  rw [Begins, hdocs] at h
  have hlive : base.map (Sources.live []) = base := List.map_id' base
  rwa [hlive] at h

theorem Begins.noteText (hb : base.Distinct) (h : Begins base s) (uri : Uri) (doc : Document) :
    Begins base ({ s with documents := s.documents.put uri doc }.noteText uri doc.text) := by
  unfold Server.noteText
  split
  · rw [Begins, Sources.map_live_put hb]
    exact Sources.isPrefix_put h uri doc.text
  · rename_i hl
    have hh : s.sources.holds uri = false := by
      simp only [isLookupFile, Bool.or_eq_true, not_or, Bool.not_eq_true] at hl
      exact hl.1
    rw [Begins, Sources.map_live_put hb,
      Sources.revise_of_not_holds (Sources.holds_of_isPrefix h hh)]
    exact h

/-- What is closed is read again: if it is one of `base`, it has its text on the disk, and else it
stands behind them. -/
theorem Begins.closed (hb : base.Distinct) (hd : base.Saved d) (h : Begins base s) (uri : Uri) :
    Begins base (s.closed d uri) := by
  unfold Server.closed
  simp only
  split
  · unfold reload
    split
    · rename_i text hread
      have htext : ∀ source ∈ base, source.uri = uri → source.text = text := by
        intro source hm hu
        have hs := hd source hm
        rw [hu, hread] at hs
        exact (Option.some.inj hs).symm
      rw [Begins, Sources.map_live_close hb s.documents htext]
      exact Sources.isPrefix_put h uri text
    · rename_i hread
      have hn : base.holds uri = false := by
        rw [Sources.holds_eq_false_iff]
        rintro source hm rfl
        have hs := hd source hm
        rw [hread] at hs
        cases hs
      rw [Begins, Sources.map_live_close_of_not_holds hn]
      exact Sources.isPrefix_drop h (by rw [Sources.holds_map_live, hn])
  · rename_i hh
    have hn := Sources.holds_of_isPrefix h (Bool.eq_false_iff.2 hh)
    rw [Sources.holds_map_live] at hn
    rw [Begins, Sources.map_live_close_of_not_holds hn]
    exact h

/-- An edit keeps the sources of the start first. -/
theorem Begins.run (hb : base.Distinct) (hd : base.Saved d) (h : Begins base s) {n : Notice}
    (hn : n.isEdit = true) : Begins base (n.run d s).1 := by
  cases n with
  | opened uri language text => exact h.noteText hb uri ⟨text, language⟩
  | changed uri changes =>
    simp only [Notice.run, changed]
    split
    · exact h.noteText hb uri _
    · exact h
  | closed uri => exact h.closed hb hd uri
  | ready | files | folders => cases hn

theorem Begins.idles {t : Server} (h : Begins base s) (hi : Idles s t) : Begins base t := by
  rw [Begins, hi.documents, hi.sources]
  exact h

/-- The states that a server comes to while the disk stays as it is and every notice is an edit. -/
inductive Edited (d : Disk) (s : Server) : Server → Prop where
  | refl : Edited d s s
  | step {t : Server} (w : World) (m : Message) (h : Edited d s t) (hw : w.disk = d)
    (hm : (Notice.of? w m).all Notice.isEdit = true) : Edited d s (t.step w m).server

theorem Edited.begins {t : Server} (h : Edited d s t) (hb : base.Distinct) (hd : base.Saved d)
    (hs : Begins base s) : Begins base t := by
  induction h with
  | refl => exact hs
  | @step t w m _ hw hm ih =>
    rcases step_cases w t m with ⟨n, -, hn, he⟩ | ⟨-, hi⟩
    · rw [hn, Option.all_some] at hm
      rw [he, hw]
      exact ih.run hb hd hm
    · exact ih.idles hi

/-- Edits leave nothing behind on the sources that were there: when no document is open any more,
the list begins with them as it did, in the same order and with the same texts. -/
theorem edits_leave_sources {options : StartOptions} {t : Server} (h : Reachable options s)
    (hsaved : s.sources.Saved d) (he : Edited d s t) (hclosed : t.documents = []) :
    s.sources <+: t.sources := by
  have hc := h.coherent
  exact begins_of_closed (he.begins hc.sources hsaved hc.begins) hclosed

end Server

/-! The source that a scan has found is opened, changed and closed, and its file a second time under
another URI. -/

namespace Sample

def closing (document : String) : Message :=
  ⟨"textDocument/didClose".toList, some (.mkObj [("textDocument", .mkObj [
    ("uri", .ofString document)])]), false⟩

def otherDocument : String := "file:///w/%61.globals.ts"

/-- The server with both documents open. -/
def bothOpened : Server :=
  { server [⟨uri, ['c']⟩, ⟨otherUri, ['b']⟩] with
    documents := [(otherUri, ⟨['b'], "typescript".toList⟩), (uri, ⟨['c'], "typescript".toList⟩)] }

theorem edited_bothOpened : Server.Edited disk (server [⟨uri, []⟩]) bothOpened := by
  have h₁ := (Server.Edited.refl : Server.Edited disk (server [⟨uri, []⟩]) _).step diskWorld
    (opening "b") rfl (by decide +kernel)
  have h₂ := h₁.step diskWorld (editing [⟨none, ['c']⟩]) rfl (by decide +kernel)
  have h₃ := h₂.step diskWorld openingOther rfl (by decide +kernel)
  have hs : ((((server [⟨uri, []⟩]).step diskWorld (opening "b")).server.step diskWorld
      (editing [⟨none, ['c']⟩])).server.step diskWorld openingOther).server = bothOpened := by
    decide +kernel
  rwa [hs] at h₃

/-- A source that leads to the file has the text of the file, which is empty, when it is closed. -/
theorem step_closing {document : String} {u : Uri}
    (hn : Notice.of? diskWorld (closing document) = some (.closed u))
    (hu : u.filePath? = some filePath) {s : Server} (hp : s.phase = .running)
    (hs : s.sources.holds u = true) :
    (s.step diskWorld (closing document)).server =
      { s with sources := s.sources.put u [], documents := s.documents.close u } := by
  rw [Server.step_of_notice hp hn]
  simp [Notice.run, Server.closed, Server.reload, hs, hu, diskWorld, readText?_filePath]

theorem edited_bothClosed :
    Server.Edited disk (server [⟨uri, []⟩]) (server [⟨uri, []⟩, ⟨otherUri, []⟩]) := by
  have hn : Notice.of? diskWorld (closing document) = some (.closed uri) := by decide +kernel
  have hn' : Notice.of? diskWorld (closing otherDocument) = some (.closed otherUri) := by
    decide +kernel
  have h := (edited_bothOpened.step diskWorld (closing document) rfl (by rw [hn]; rfl)).step
    diskWorld (closing otherDocument) rfl (by rw [hn']; rfl)
  rw [step_closing hn (by decide +kernel) rfl (by decide +kernel),
    step_closing hn' (by decide +kernel) rfl (by decide +kernel)] at h
  exact h

theorem saved_scanned : Sources.Saved disk [⟨uri, []⟩] := by
  have hpath : uri.filePath? = some filePath := by decide +kernel
  intro source hs
  rw [List.mem_singleton.1 hs, hpath, Option.bind_some, readText?_filePath]

end Sample

namespace Server

theorem edits_leave_sources_of_sample :
    ∃ s t, Reachable Sample.options s ∧ Edited Sample.disk s t ∧
      s.sources = [⟨Sample.uri, []⟩] ∧ t.sources = [⟨Sample.uri, []⟩, ⟨Sample.otherUri, []⟩] ∧
      s.sources <+: t.sources := by
  have h : Reachable Sample.options (Sample.server [⟨Sample.uri, []⟩]) :=
    reachable_iff.2 ⟨_, Sample.history_scanned⟩
  exact ⟨_, _, h, Sample.edited_bothClosed, rfl, rfl,
    edits_leave_sources h Sample.saved_scanned Sample.edited_bothClosed rfl⟩

end Server

end CustomProps
