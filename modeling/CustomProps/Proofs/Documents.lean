import CustomProps.Proofs.Step

/-!
The open documents, and what each notice does to them. A document is found under the URI it was last
put under. Opening, changing and closing touch the document they name and no other; notices about
files and folders touch none.
-/

namespace CustomProps

namespace Documents

theorem get?_cons (e : Uri × Document) (docs : Documents) (uri : Uri) :
    get? (e :: docs) uri = if e.1 = uri then some e.2 else docs.get? uri := by
  by_cases h : e.1 = uri <;> simp [get?, h]

theorem get?_of_not_mem {docs : Documents} {uri : Uri} (h : uri ∉ docs.map (·.1)) :
    docs.get? uri = none := by
  induction docs with
  | nil => rfl
  | cons e docs ih =>
    rw [List.map_cons, List.mem_cons, not_or] at h
    rw [get?_cons, if_neg (Ne.symm h.1), ih h.2]

theorem not_mem_close (docs : Documents) (uri : Uri) : uri ∉ (docs.close uri).map (·.1) := by
  simp [close]

theorem get?_close_self (docs : Documents) (uri : Uri) : (docs.close uri).get? uri = none :=
  get?_of_not_mem (docs.not_mem_close uri)

theorem get?_close_of_ne (docs : Documents) {uri other : Uri} (h : other ≠ uri) :
    (docs.close uri).get? other = docs.get? other := by
  induction docs with
  | nil => rfl
  | cons e docs ih =>
    by_cases hk : e.1 = uri
    · have hc : close (e :: docs) uri = close docs uri := by simp [close, hk]
      have hn : e.1 ≠ other := by rw [hk]; exact h.symm
      rw [hc, get?_cons, if_neg hn, ih]
    · have hc : close (e :: docs) uri = e :: close docs uri := by simp [close, hk]
      rw [hc, get?_cons, get?_cons, ih]

theorem get?_put_of_ne (docs : Documents) {uri other : Uri} (doc : Document) (h : other ≠ uri) :
    (docs.put uri doc).get? other = docs.get? other := by
  rw [put, get?_cons, if_neg h.symm, get?_close_of_ne docs h]

/-- No URI is open twice. -/
def Distinct (docs : Documents) : Prop := (docs.map (·.1)).Nodup

theorem Distinct.close {docs : Documents} (h : docs.Distinct) (uri : Uri) :
    (docs.close uri).Distinct :=
  List.Nodup.sublist (List.filter_sublist.map _) h

theorem Distinct.put {docs : Documents} (h : docs.Distinct) (uri : Uri) (doc : Document) :
    (docs.put uri doc).Distinct :=
  List.nodup_cons.2 ⟨docs.not_mem_close uri, h.close uri⟩

end Documents

namespace Server

@[simp] theorem documents_noteText (s : Server) (uri : Uri) (text : Text) :
    (s.noteText uri text).documents = s.documents := by
  unfold noteText
  split <;> rfl

@[simp] theorem documents_reload (d : Disk) (s : Server) (uri : Uri) :
    (s.reload d uri).documents = s.documents := by
  unfold reload
  split <;> rfl

@[simp] theorem documents_opened (s : Server) (uri : Uri) (language text : Text) :
    (s.opened uri language text).documents = s.documents.put uri ⟨text, language⟩ := by
  simp [opened]

theorem documents_changed (s : Server) (uri : Uri) (changes : List Change) :
    (s.changed uri changes).documents =
      match s.revised? uri changes with
      | some doc => s.documents.put uri doc
      | none => s.documents := by
  unfold changed
  cases s.revised? uri changes with
  | some doc => simp
  | none => rfl

@[simp] theorem documents_closed (d : Disk) (s : Server) (uri : Uri) :
    (s.closed d uri).documents = s.documents.close uri := by
  unfold closed
  simp only
  split <;> simp

@[simp] theorem documents_fileChanged (d : Disk) (s : Server) (uri : Uri) (e : FileEvent) :
    (s.fileChanged d uri e).documents = s.documents := by
  cases e with
  | deleted => rfl
  | other => rfl
  | written =>
    simp only [fileChanged]
    split <;> simp

@[simp] theorem documents_filesChanged (d : Disk) (s : Server) (events : List (Uri × FileEvent)) :
    (s.filesChanged d events).documents = s.documents := by
  unfold filesChanged
  induction events generalizing s with
  | nil => rfl
  | cons e events ih => rw [List.foldl_cons, ih, documents_fileChanged]

@[simp] theorem documents_rescan (d : Disk) (s : Server) :
    (s.rescan d).1.documents = s.documents := by
  unfold rescan
  simp only
  split <;> rfl

@[simp] theorem documents_ready (d : Disk) (s : Server) (known : Option (List Uri)) :
    (s.ready d known).1.documents = s.documents := by
  simp [ready]

@[simp] theorem documents_foldersChanged (d : Disk) (s : Server) (added removed : List Uri) :
    (s.foldersChanged d added removed).1.documents = s.documents := by
  simp [foldersChanged]

end Server

end CustomProps
