import CustomProps.Proofs.Change
import CustomProps.Proofs.Documents

/-!
A session of an editor with the server. The editor keeps its own copy of each document and tells the
server what it does to it: a change gives the whole text, or the positions of two cuts of the copy
as it stands after the changes told before. Whatever else is sent in between, every document that
is open at the server has the text of the editor's copy, and every document that the editor has
opened is open at the server.
-/

namespace CustomProps

/-- The editor's side of a session. -/
structure Editor where
  /-- The text that the editor has of a document. -/
  copy : Uri → Option Text
  /-- Whether the editor has opened a document and not closed it since. -/
  hasOpen : Uri → Bool

/-- Changes told one after the other, from one copy of a document to the next. The text between two
cuts is told by the positions where it starts and ends. -/
inductive Edits : Option Text → List Change → Option Text → Prop where
  | done (copy : Option Text) : Edits copy [] copy
  | whole {copy copy' : Option Text} {changes : List Change} (new : Text)
    (h : Edits (some new) changes copy') : Edits copy (⟨none, new⟩ :: changes) copy'
  | between {copy' : Option Text} {changes : List Change} (x y z new : Text)
    (h : Edits (some (x ++ new ++ z)) changes copy') :
    Edits (some (x ++ y ++ z))
      (⟨some ⟨Text.endOf x, Text.endOf (x ++ y)⟩, new⟩ :: changes) copy'

namespace Editor

/-- An editor without documents. -/
def fresh : Editor := ⟨fun _ => none, fun _ => false⟩

def setCopy (e : Editor) (uri : Uri) (copy : Option Text) : Editor :=
  { e with copy := fun u => if u = uri then copy else e.copy u }

def setOpen (e : Editor) (uri : Uri) (isOpen : Bool) : Editor :=
  { e with hasOpen := fun u => if u = uri then isOpen else e.hasOpen u }

/-- The editor before and after it sends a notice. It may tell changes of a document that it has not
opened. -/
inductive Sends (e : Editor) : Notice → Editor → Prop where
  | opened (uri : Uri) (language text : Text) :
    Sends e (.opened uri language text) ((e.setCopy uri (some text)).setOpen uri true)
  | changed {uri : Uri} {changes : List Change} {copy : Option Text}
    (h : Edits (e.copy uri) changes copy) : Sends e (.changed uri changes) (e.setCopy uri copy)
  | closed (uri : Uri) : Sends e (.closed uri) ((e.setCopy uri none).setOpen uri false)
  | ready (known : Option (List Uri)) : Sends e (.ready known) e
  | files (events : List (Uri × FileEvent)) : Sends e (.files events) e
  | folders (added removed : List Uri) : Sends e (.folders added removed) e

@[simp] theorem copy_setCopy_self (e : Editor) (uri : Uri) (copy : Option Text) :
    (e.setCopy uri copy).copy uri = copy := by simp [setCopy]

theorem copy_setCopy_of_ne (e : Editor) {uri other : Uri} (copy : Option Text)
    (h : other ≠ uri) : (e.setCopy uri copy).copy other = e.copy other := by simp [setCopy, h]

@[simp] theorem hasOpen_setCopy (e : Editor) (uri : Uri) (copy : Option Text) :
    (e.setCopy uri copy).hasOpen = e.hasOpen := rfl

@[simp] theorem copy_setOpen (e : Editor) (uri : Uri) (isOpen : Bool) :
    (e.setOpen uri isOpen).copy = e.copy := rfl

@[simp] theorem hasOpen_setOpen_self (e : Editor) (uri : Uri) (isOpen : Bool) :
    (e.setOpen uri isOpen).hasOpen uri = isOpen := by simp [setOpen]

theorem hasOpen_setOpen_of_ne (e : Editor) {uri other : Uri} (isOpen : Bool)
    (h : other ≠ uri) : (e.setOpen uri isOpen).hasOpen other = e.hasOpen other := by
  simp [setOpen, h]

end Editor

/-- The states that a fresh server and a fresh editor come to together. Notices are sent while the
server runs; every other message may come at any time. -/
inductive Session (options : StartOptions) : Server → Editor → Prop where
  | start : Session options (Server.start options) Editor.fresh
  | notice {s : Server} {e e' : Editor} {n : Notice} (w : World) (m : Message)
    (h : Session options s e) (hp : s.phase = .running) (hn : Notice.of? w m = some n)
    (hs : e.Sends n e') : Session options (s.step w m).server e'
  | other {s : Server} {e : Editor} (w : World) (m : Message) (h : Session options s e)
    (hn : Notice.of? w m = none) : Session options (s.step w m).server e

/-- The server has the editor's copy of a document, if it has any and in any case if the editor has
opened it. -/
structure Follows (s : Server) (e : Editor) (uri : Uri) : Prop where
  text : ∀ doc, s.documents.get? uri = some doc → e.copy uri = some doc.text
  isOpen : e.hasOpen uri = true → ∃ doc, s.documents.get? uri = some doc

/-- Only the document, the copy and the mark of the URI itself matter. -/
theorem Follows.congr {s s' : Server} {e e' : Editor} {uri : Uri} (h : Follows s e uri)
    (hd : s'.documents.get? uri = s.documents.get? uri) (hc : e'.copy uri = e.copy uri)
    (ho : e'.hasOpen uri = e.hasOpen uri) : Follows s' e' uri := by
  constructor
  · intro doc hdoc
    rw [hc]
    exact h.text doc (hd ▸ hdoc)
  · intro hopen
    rw [hd]
    exact h.isOpen (ho ▸ hopen)

/-- Changes told from cuts of a text do to it what the editor did to its copy. -/
theorem Edits.foldl_change {changes : List Change} {copy : Option Text} {t : Text}
    (h : Edits (some t) changes copy) : copy = some (changes.foldl Text.change t) := by
  induction changes generalizing t with
  | nil =>
    cases h
    rfl
  | cons c changes ih =>
    cases h with
    | whole new h => exact ih h
    | between x y z new h =>
      rw [List.foldl_cons, Text.change_endOf]
      exact ih h

namespace Server

theorem follows_opened {s : Server} {e : Editor} (h : ∀ u, Follows s e u) (uri : Uri)
    (language text : Text) (u : Uri) :
    Follows (s.opened uri language text) ((e.setCopy uri (some text)).setOpen uri true) u := by
  by_cases hu : u = uri
  · subst hu
    constructor
    · intro doc hdoc
      rw [documents_opened, Documents.get?_put_self] at hdoc
      cases hdoc
      simp
    · intro _
      exact ⟨⟨text, language⟩, by simp⟩
  · apply (h u).congr
    · rw [documents_opened, Documents.get?_put_of_ne _ _ hu]
    · rw [Editor.copy_setOpen, Editor.copy_setCopy_of_ne _ _ hu]
    · rw [Editor.hasOpen_setOpen_of_ne _ _ hu, Editor.hasOpen_setCopy]

theorem follows_closed {s : Server} {e : Editor} (h : ∀ u, Follows s e u) (d : Disk) (uri : Uri)
    (u : Uri) : Follows (s.closed d uri) ((e.setCopy uri none).setOpen uri false) u := by
  by_cases hu : u = uri
  · subst hu
    constructor
    · intro doc hdoc
      rw [documents_closed, Documents.get?_close_self] at hdoc
      cases hdoc
    · intro hopen
      rw [Editor.hasOpen_setOpen_self] at hopen
      cases hopen
  · apply (h u).congr
    · rw [documents_closed, Documents.get?_close_of_ne _ hu]
    · rw [Editor.copy_setOpen, Editor.copy_setCopy_of_ne _ _ hu]
    · rw [Editor.hasOpen_setOpen_of_ne _ _ hu, Editor.hasOpen_setCopy]

/-- A document that is open changes as the copy does; one that is not open is taken up with the copy
or stays away. -/
theorem text_revised {s : Server} {uri : Uri} {changes : List Change} {copy copy' : Option Text}
    (hs : ∀ doc, s.documents.get? uri = some doc → copy = some doc.text)
    (he : Edits copy changes copy') {doc : Document} (hr : s.revised? uri changes = some doc) :
    copy' = some doc.text := by
  unfold revised? at hr
  split at hr
  · rename_i old hd
    cases hr
    rw [hs old hd] at he
    exact he.foldl_change
  · cases hr
    cases he with
    | whole new h =>
      cases h
      rfl
  · cases hr

theorem follows_changed {s : Server} {e : Editor} (h : ∀ u, Follows s e u) {uri : Uri}
    {changes : List Change} {copy : Option Text} (he : Edits (e.copy uri) changes copy) (u : Uri) :
    Follows (s.changed uri changes) (e.setCopy uri copy) u := by
  by_cases hu : u = uri
  · subst hu
    cases hr : s.revised? u changes with
    | some doc =>
      have hd : (s.changed u changes).documents.get? u = some doc := by
        rw [documents_changed, hr, Documents.get?_put_self]
      constructor
      · intro doc' hdoc
        rw [hd] at hdoc
        cases hdoc
        rw [Editor.copy_setCopy_self]
        exact text_revised (h u).text he hr
      · intro _
        exact ⟨doc, hd⟩
    | none =>
      -- Only a document that is not open is left out, and then there is nothing to compare.
      have hd : (s.changed u changes).documents.get? u = none := by
        rw [documents_changed, hr]
        cases hg : s.documents.get? u with
        | none => rfl
        | some old => simp [revised?, hg] at hr
      have hn : s.documents.get? u = none := by
        rw [documents_changed, hr] at hd
        exact hd
      constructor
      · intro doc hdoc
        rw [hd] at hdoc
        cases hdoc
      · intro hopen
        obtain ⟨doc, hdoc⟩ := (h u).isOpen hopen
        rw [hn] at hdoc
        cases hdoc
  · apply (h u).congr
    · rw [documents_changed]
      split
      · rw [Documents.get?_put_of_ne _ _ hu]
      · rfl
    · rw [Editor.copy_setCopy_of_ne _ _ hu]
    · rfl

/-- One notice keeps server and editor together. -/
theorem follows_run {s : Server} {e e' : Editor} {n : Notice} (h : ∀ u, Follows s e u)
    (hs : e.Sends n e') (d : Disk) (u : Uri) : Follows (n.run d s).1 e' u := by
  cases hs with
  | opened uri language text => exact follows_opened h uri language text u
  | changed he => exact follows_changed h he u
  | closed uri => exact follows_closed h d uri u
  | ready known => exact (h u).congr (by simp [Notice.run]) rfl rfl
  | files events => exact (h u).congr (by simp [Notice.run]) rfl rfl
  | folders added removed => exact (h u).congr (by simp [Notice.run]) rfl rfl

end Server

theorem Session.follows {options : StartOptions} {s : Server} {e : Editor}
    (h : Session options s e) (u : Uri) : Follows s e u := by
  induction h generalizing u with
  | start =>
    constructor
    · intro doc hdoc
      cases hdoc
    · intro hopen
      cases hopen
  | notice w m _ hp hn hs ih =>
    rw [Server.step_of_notice hp hn]
    exact Server.follows_run ih hs w.disk u
  | @other s e w m _ hn ih =>
    have hi : Server.Idles s (s.step w m).server := Server.step_idles fun _ => hn
    exact (ih u).congr (by rw [hi.documents]) rfl rfl

/-- In every session, after every step, an open document has the text of the editor's copy. -/
theorem session_keeps_copies {options : StartOptions} {s : Server} {e : Editor}
    (h : Session options s e) (uri : Uri) :
    (∀ doc, s.documents.get? uri = some doc → e.copy uri = some doc.text) ∧
    (e.hasOpen uri = true →
      ∃ doc, s.documents.get? uri = some doc ∧ e.copy uri = some doc.text) := by
  refine ⟨(h.follows uri).text, fun hopen => ?_⟩
  obtain ⟨doc, hdoc⟩ := (h.follows uri).isOpen hopen
  exact ⟨doc, hdoc, (h.follows uri).text doc hdoc⟩

/-- The changes of one notification: a character of two units is replaced, then the end of the text
as it is by then. -/
def Sample.changes : List Change :=
  [⟨some ⟨Text.endOf ['a'], Text.endOf (['a'] ++ ['😀'])⟩, ['x']⟩,
    ⟨some ⟨Text.endOf ['a', 'x', '\n', 'b'], Text.endOf (['a', 'x', '\n', 'b'] ++ [])⟩, ['!']⟩]

/-- The editor after it opened the document. -/
def Sample.editor : Editor :=
  (Editor.fresh.setCopy Sample.uri (some "a😀\nb".toList)).setOpen Sample.uri true

theorem Sample.edits : Edits (Sample.editor.copy Sample.uri) Sample.changes
    (some (['a', 'x', '\n', 'b'] ++ ['!'] ++ [])) := by
  have hc : Sample.editor.copy Sample.uri = some (['a'] ++ ['😀'] ++ ['\n', 'b']) := by
    rw [Sample.editor, Editor.copy_setOpen, Editor.copy_setCopy_self]
    decide
  rw [hc]
  exact .between _ _ _ _ (.between ['a', 'x', '\n', 'b'] [] [] ['!'] (.done _))

theorem session_keeps_copies_of_sample :
    ∃ s e, Session Sample.options s e ∧ e.hasOpen Sample.uri = true ∧
      e.copy Sample.uri = some "ax\nb!".toList ∧
      ∃ doc, s.documents.get? Sample.uri = some doc ∧ e.copy Sample.uri = some doc.text := by
  have h₁ : Session Sample.options _ Editor.fresh := .other Sample.world Sample.setUp .start rfl
  have h₂ : Session Sample.options _ Sample.editor :=
    .notice Sample.world (Sample.opening "a😀\nb") h₁ (by decide +kernel) (by decide +kernel)
      (.opened Sample.uri "typescript".toList "a😀\nb".toList)
  have h₃ := Session.notice Sample.world (Sample.editing Sample.changes) h₂ (by decide +kernel)
    (by decide +kernel) (.changed Sample.edits)
  have hopen : Sample.editor.hasOpen Sample.uri = true := by simp [Sample.editor]
  exact ⟨_, _, h₃, hopen, by rw [Editor.copy_setCopy_self]; decide,
    (session_keeps_copies h₃ Sample.uri).2 hopen⟩

end CustomProps
