import CustomProps.Server.State

/-!
Keeping open documents in step with the editor. A change replaces a range or the whole text; a range
that the document does not have, or that ends before it starts, makes it replace the whole text.
-/

namespace CustomProps

structure Change where
  range : Option Range
  text : Text
  deriving DecidableEq, Repr

/-- The text after a change. -/
def Text.change (t : Text) (c : Change) : Text :=
  match c.range with
  | none => c.text
  | some range =>
    match t.offset? range.start, t.offset? range.stop with
    | some start, some stop => if start ≤ stop then t.splice start stop c.text else c.text
    | _, _ => c.text

inductive FileEvent where
  | written
  | deleted
  | other
  deriving DecidableEq, Repr

/-- The language of a document that was never opened, by the extension of its path. -/
def Uri.language (u : Uri) : Text :=
  let path := u.path.map Char.toLower
  let extension := Text.trailing (· != '.') path
  if extension.length = path.length then "plaintext".toList
  else (match String.ofList extension with
    | "tsx" => "typescriptreact"
    | "jsx" => "javascriptreact"
    | "ts" | "mts" | "cts" => "typescript"
    | "js" | "mjs" | "cjs" => "javascript"
    | _ => "plaintext").toList

namespace Server

def opened (s : Server) (uri : Uri) (language text : Text) : Server :=
  { s with documents := s.documents.put uri ⟨text, language⟩ }.noteText uri text

/-- A document after changes. One that is not open is taken up when it gets a whole new text. -/
def revised? (s : Server) (uri : Uri) (changes : List Change) : Option Document :=
  match s.documents.get? uri, changes with
  | some doc, changes => some { doc with text := changes.foldl Text.change doc.text }
  | none, [⟨none, text⟩] => some ⟨text, uri.language⟩
  | none, _ => none

def changed (s : Server) (uri : Uri) (changes : List Change) : Server :=
  match s.revised? uri changes with
  | some doc => { s with documents := s.documents.put uri doc }.noteText uri doc.text
  | none => s

def closed (d : Disk) (s : Server) (uri : Uri) : Server :=
  let s := { s with documents := s.documents.close uri }
  if s.sources.holds uri then s.reload d uri else s

/-- A file that changed on the disk; open documents are newer than their files. -/
def fileChanged (d : Disk) (s : Server) (uri : Uri) : FileEvent → Server
  | .deleted => { s with sources := s.sources.drop uri }
  | .written =>
    if !s.documents.isOpen uri && s.isLookupFile uri then s.reload d uri else s
  | .other => s

def filesChanged (d : Disk) (s : Server) (events : List (Uri × FileEvent)) : Server :=
  events.foldl (fun s e => s.fileChanged d e.1 e.2) s

end Server

end CustomProps
