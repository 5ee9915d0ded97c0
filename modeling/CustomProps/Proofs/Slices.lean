import CustomProps.Proofs.Acceptance
import CustomProps.Proofs.Answers

/-!
Slices with checked ends. A slice of a text is there only if its ends are in order, inside the text
and between characters; anything else is refused. Every answer about a document and every change of
it is said once more here with all its slices checked: lines, tokens and arguments of calls are cut
out, columns are counted in a beginning that is cut off, a name is cut behind the dashes that are
typed, and a range is replaced. No slice is ever refused, whatever the state, the position and the
range, and the answers are those of the server.
-/

namespace CustomProps

open Text Token

/-- Two offsets between which a text can be cut out. -/
structure IsSlice (t : Text) (start stop : Nat) : Prop where
  ordered : start ≤ stop
  inside : stop ≤ t.byteSize
  startCut : t.isCut start = true
  stopCut : t.isCut stop = true

instance (t : Text) (start stop : Nat) : Decidable (IsSlice t start stop) :=
  decidable_of_iff (start ≤ stop ∧ stop ≤ t.byteSize ∧ t.isCut start = true ∧ t.isCut stop = true)
    ⟨fun ⟨ho, hi, hs, he⟩ => ⟨ho, hi, hs, he⟩, fun h => ⟨h.1, h.2, h.3, h.4⟩⟩

/-- A slice that a text does not have. -/
structure BadSlice where
  text : Text
  start : Nat
  stop : Nat
  deriving DecidableEq, Repr

/-- What is computed with checked slices: a result, or the first slice that is refused. -/
abbrev Sliced := Except BadSlice

/-- The item of a declaration that is inserted in the given way. -/
def CompletionItem.ofInsertion (d : Declaration) (swatches : Bool) (insertion : Insertion) :
    CompletionItem where
  label := d.name
  insertText := insertion.text
  filterText := filterFor insertion.rule d.name
  replaced := insertion.range
  kind := ItemKind.ofValue d.value
  detail := d.value
  documentation := Swatch.preview d.value swatches

namespace Sliced

def slice (t : Text) (start stop : Nat) : Sliced Text :=
  if IsSlice t start stop then return t.slice start stop else throw ⟨t, start, stop⟩

def splice (t : Text) (start stop : Nat) (new : Text) : Sliced Text :=
  if IsSlice t start stop then return t.splice start stop new else throw ⟨t, start, stop⟩

theorem slice_of_isSlice {t : Text} {start stop : Nat} (h : IsSlice t start stop) :
    slice t start stop = pure (t.slice start stop) := if_pos h

theorem isSlice_append (x y z : Text) :
    IsSlice (x ++ (y ++ z)) (byteSize x) (byteSize x + byteSize y) := by
  refine ⟨Nat.le_add_right _ _, ?_, isCut_append x _, ?_⟩
  · simp only [byteSize_append]
    omega
  · rw [← byteSize_append, ← List.append_assoc]
    exact isCut_append _ _

theorem slice_append (x y z : Text) :
    slice (x ++ (y ++ z)) (byteSize x) (byteSize x + byteSize y) = pure y := by
  rw [slice_of_isSlice (isSlice_append x y z), Text.slice_append]

theorem slice_beginning (x z : Text) : slice (x ++ z) 0 (byteSize x) = pure x := by
  simpa using slice_append [] x z

theorem slice_end (x z : Text) : slice (x ++ z) (byteSize x) (byteSize (x ++ z)) = pure z := by
  simpa using slice_append x z []

/-- A slice with an end inside a character is refused. -/
example : slice "é".toList 0 1 = .error ⟨"é".toList, 0, 1⟩ := by decide

/-- The column of an offset in a line, counted in the beginning of the line that ends there. -/
def column (line : Text) (offset : Nat) : Sliced Nat := do
  return (← slice line 0 (min offset line.byteSize)).unitSize

/-- The column of a cut is the column that is counted there. -/
theorem column_of_append {line x z : Text} (h : line = x ++ z) :
    column line (byteSize x) = pure (line.byteToColumn (byteSize x)) := by
  have hmin : min (byteSize x) (byteSize (x ++ z)) = byteSize x := by
    rw [byteSize_append]
    omega
  rw [h, column, hmin, slice_beginning, pure_bind, byteToColumn_append]

/-- A line is cut out between the line feeds around it, and then its carriage return is cut off. -/
def line? (t : Text) (n : Nat) : Sliced (Option Text) := do
  if n ≤ t.lastLine then
    let start := (beforeLine n t).byteSize
    let line ← slice t start (start + (lineOf n t).byteSize)
    if ['\r'].isSuffixOf line then return some (← slice line 0 (line.byteSize - 1))
    else return some line
  else return none

theorem line?_eq (t : Text) (n : Nat) : line? t n = pure (t.line? n) := by
  rw [line?, Text.line?_eq]
  split
  · have ht : t = beforeLine n t ++ (lineOf n t ++ (fromLine n t).dropWhile (· != '\n')) := by
      rw [lineOf, List.takeWhile_append_dropWhile, beforeLine_append_fromLine]
    have hline : slice t (beforeLine n t).byteSize
        ((beforeLine n t).byteSize + (lineOf n t).byteSize) = pure (lineOf n t) := by
      nth_rewrite 1 [ht]
      exact slice_append _ _ _
    simp only [hline, pure_bind]
    -- A carriage return is one byte, so the line without it ends one byte earlier.
    by_cases hr : (lineOf n t).getLast? = some '\r'
    · obtain ⟨s, hs⟩ := List.getLast?_eq_some_iff.1 hr
      have hsuffix : ['\r'].isSuffixOf (s ++ ['\r']) = true := by simp
      have hsize : byteSize (s ++ ['\r']) - 1 = byteSize s := by
        simp [show '\r'.utf8Size = 1 from rfl]
      rw [hs, if_pos hsuffix, hsize, slice_beginning, pure_bind, dropReturn_append]
    · have hsuffix : ¬ ['\r'].isSuffixOf (lineOf n t) = true := by
        rw [List.isSuffixOf_iff_suffix]
        rintro ⟨s, hs⟩
        exact hr (by simp [← hs])
      rw [if_neg hsuffix, dropReturn_of_getLast? hr]
  · rfl

def range? (p : Char → Bool) (line : Text) (position : Position) : Sliced (Option Range) := do
  let cursor := line.columnToByte position.column
  let before ← slice line 0 cursor
  let after ← slice line cursor line.byteSize
  let start := cursor - (trailing p before).byteSize
  let stop := cursor + byteSize (after.takeWhile p)
  if start = stop then return none
  else
    let first ← column line start
    let last ← column line stop
    return some (Range.onLine position.line first last)

theorem range?_eq (p : Char → Bool) (line : Text) (position : Position) :
    range? p line position = pure (Token.range? p line position) := by
  obtain ⟨x, z, rfl, hcut⟩ := exists_columnToByte line position.column
  obtain ⟨y, hx, -⟩ := append_trailing p x
  have hstart : byteSize x - byteSize (trailing p x) = byteSize y := by
    have h := congrArg byteSize hx
    rw [byteSize_append] at h
    omega
  have hfirst : x ++ z = y ++ (trailing p x ++ z) := by rw [← List.append_assoc, ← hx]
  have hlast : x ++ z = (x ++ z.takeWhile p) ++ z.dropWhile p := by
    rw [List.append_assoc, List.takeWhile_append_dropWhile]
  simp only [range?, Token.range?, span, hcut, slice_beginning, slice_end, pure_bind,
    takeBytes_append, dropBytes_append, hstart, ← byteSize_append]
  split
  · rfl
  · rw [column_of_append hfirst, column_of_append hlast, pure_bind, pure_bind]

def text (line : Text) (range : Range) : Sliced Text :=
  slice line (line.columnToByte range.start.column) (line.columnToByte range.stop.column)

/-- The token at a position. -/
def token? (p : Char → Bool) (line : Text) (position : Position) : Sliced (Option Text) := do
  match ← range? p line position with
  | some range => return some (← text line range)
  | none => return none

/-- Every column leads to a cut, also one past the end or inside a character. -/
theorem isSlice_columns (line : Text) {a b : Nat} (h : a ≤ b) :
    IsSlice line (line.columnToByte a) (line.columnToByte b) := by
  obtain ⟨x, w, hx, ha⟩ := exists_columnToByte line a
  obtain ⟨y, z, hy, hb⟩ := exists_columnToByte line b
  refine ⟨columnToByte_mono line h, ?_, ?_, ?_⟩
  · rw [hb, hy, byteSize_append]
    exact Nat.le_add_right _ _
  · rw [ha, hx]
    exact isCut_append x w
  · rw [hb, hy]
    exact isCut_append y z

theorem columns_of_range? {p : Char → Bool} {line : Text} {position : Position} {range : Range}
    (h : Token.range? p line position = some range) : range.start.column ≤ range.stop.column := by
  obtain ⟨left, run, right, ht⟩ := exists_touches p line position.column
  rw [ht.range?_eq] at h
  split at h
  · cases h
  · cases h
    simp [Range.onLine]

theorem token?_eq (p : Char → Bool) (line : Text) (position : Position) :
    token? p line position = pure ((Token.range? p line position).map (Token.text line)) := by
  rw [token?, range?_eq, pure_bind]
  cases hr : Token.range? p line position with
  | none => rfl
  | some range =>
    have htext : text line range = pure (Token.text line range) :=
      slice_of_isSlice (isSlice_columns line (columns_of_range? hr))
    simp only [htext, pure_bind, Option.map_some]

def firstArgument? (token : Text) : Sliced (Option Text) := do
  match token.find? callMark with
  | none => return none
  | some start =>
    let inner ← slice token (start + callMark.byteSize) token.byteSize
    let arguments ← slice inner 0 ((inner.find? [')']).getD inner.byteSize)
    return (split ',' arguments).head?.map trim

/-- The text before the first `c` is a slice, also where it is all of the text. -/
theorem slice_find? (c : Char) (t : Text) :
    slice t 0 ((t.find? [c]).getD t.byteSize) =
      pure (t.takeBytes ((t.find? [c]).getD t.byteSize)) := by
  cases hc : t.find? [c] with
  | none =>
    have hslice := slice_beginning t []
    have htake := takeBytes_append t []
    rw [List.append_nil] at hslice htake
    rw [Option.getD_none, hslice, htake]
  | some n =>
    obtain ⟨x, z, hx, rfl⟩ := (find?_eq_some_iff (by simp)).1 hc
    rw [Option.getD_some, hx.eq, slice_beginning, takeBytes_append]

theorem firstArgument?_eq (token : Text) :
    firstArgument? token = pure (Token.firstArgument? token) := by
  rw [firstArgument?, Token.firstArgument?]
  cases hf : token.find? callMark with
  | none => rfl
  | some start =>
    obtain ⟨x, z, hx, rfl⟩ := (find?_eq_some_iff (by decide)).1 hf
    have htoken : token = (x ++ callMark) ++ z := by rw [List.append_assoc, ← hx.eq]
    have hinner : slice token (byteSize x + callMark.byteSize) token.byteSize = pure z := by
      rw [← byteSize_append, htoken, slice_end]
    have hdrop : token.dropBytes (byteSize x + callMark.byteSize) = z := by
      rw [← byteSize_append, htoken, dropBytes_append]
    simp only [hinner, hdrop, slice_find?, pure_bind, Option.bind_eq_bind, Option.bind_some,
      head?_split, Option.map_some, Option.pure_def]

def variableAt (t : Text) (position : Position) : Sliced (Except LookupError Text) := do
  match ← line? t position.line with
  | none => return .error .noVariable
  | some line =>
    let token := (← token? isNonBlank line position).getD []
    if token.contains namedCallMark then
      match ← firstArgument? token with
      | some name => return asName name
      | none => return .error .noVariable
    else
      match ← token? isVariableChar line position with
      | some name => return asName name
      | none => return .error .noVariable

theorem variableAt_eq (t : Text) (position : Position) :
    variableAt t position = pure (Token.variableAt t position) := by
  rw [variableAt, Token.variableAt, line?_eq, pure_bind]
  cases t.line? position.line with
  | none => rfl
  | some line =>
    simp only [token?_eq, firstArgument?_eq, pure_bind]
    split
    · cases Token.firstArgument? (((Token.range? isNonBlank line position).map
        (Token.text line)).getD []) <;> rfl
    · cases Token.range? isVariableChar line position <;> rfl

def openCall? (position : Position) (line : Text) : Sliced (Option OpenCall) := do
  let cursor := line.columnToByte position.column
  match (← slice line 0 cursor).findLast? callMark with
  | none => return none
  | some opening =>
    let argument := opening + callMark.byteSize
    let typed ← slice line argument cursor
    if typed.all isVariableChar && Insertion.dashes typed ≤ 2 then
      return some ⟨argument, Insertion.dashes typed, cursor⟩
    else return none

theorem openCall?_eq (position : Position) (line : Text) :
    openCall? position line = pure (OpenCall.before? position line) := by
  obtain ⟨x, z, rfl, hcut⟩ := exists_columnToByte line position.column
  simp only [openCall?, OpenCall.before?, hcut, slice_beginning, takeBytes_append, pure_bind]
  cases ho : findLast? x callMark with
  | none => rfl
  | some opening =>
    obtain ⟨front, w, rfl, rfl⟩ := eq_append_of_findLast? ho
    have htyped : IsSlice (front ++ (callMark ++ w) ++ z) (byteSize front + callMark.byteSize)
        (byteSize (front ++ (callMark ++ w))) := by
      have h := isSlice_append (front ++ callMark) w z
      simpa only [byteSize_append, List.append_assoc, Nat.add_assoc] using h
    simp only [slice_of_isSlice htyped, pure_bind, Option.bind_eq_bind, Option.bind_some]
    split <;> rfl

def complete (call : OpenCall) (name : Text) (position : Position) (line : Text) :
    Sliced Insertion := do
  let rest ← slice line call.cursor line.byteSize
  let remaining ← slice name (min call.dashes name.byteSize) name.byteSize
  let first ← column line (call.argument + call.dashes)
  match rest.find? [')'] with
  | some close =>
    let last ← column line (call.cursor + close)
    return ⟨remaining, Range.onLine position.line first last, .completeCall⟩
  | none =>
    let last ← column line (call.cursor + byteSize (rest.takeWhile isVariableChar))
    return ⟨remaining ++ [')'], Range.onLine position.line first last, .completeCall⟩

/-- A name with its mark is cut behind the dashes that are typed. -/
theorem exists_complete {call : OpenCall} {line front dashes typed rest name : Text}
    (h : call.Stands line front dashes typed rest) (hn : nameMark <+: name) (position : Position) :
    ∃ insertion, call.complete? name position line = some insertion ∧
      complete call name position line = pure insertion := by
  obtain ⟨remaining, rfl⟩ := h.mark.trans hn
  obtain ⟨hfirst, hstart⟩ := h.start_eq
  have hrest : slice line call.cursor line.byteSize = pure rest := by
    rw [h.eq, h.cursor, slice_end]
  simp only [complete, OpenCall.complete?, h.min_dashes, if_pos (isCut_append dashes remaining),
    dropBytes_append, hstart, h.dropBytes_cursor, hrest, slice_end, column_of_append hfirst,
    pure_bind]
  cases hf : rest.find? [')'] with
  | some close =>
    obtain ⟨u, hline, hstop⟩ := h.exists_stop hf
    simp only [hstop, column_of_append hline, pure_bind]
    exact ⟨_, rfl, rfl⟩
  | none =>
    obtain ⟨hline, hstop⟩ := h.stop_eq
    simp only [hstop, column_of_append hline, pure_bind]
    exact ⟨_, rfl, rfl⟩

def resolve (name : Text) (cursor : CursorLine) : Sliced Insertion := do
  match ← openCall? cursor.position cursor.line with
  | some call => complete call name cursor.position cursor.line
  | none =>
    if cursor.line.contains callMark then return ⟨name, cursor.replaced, .bareName⟩
    else if cursor.propertyLine then
      return ⟨['\''] ++ Insertion.callOf name ++ ['\''], cursor.replaced, .quotedCall⟩
    else return ⟨Insertion.callOf name, cursor.replaced, .call⟩

theorem exists_resolve {name : Text} (hn : nameMark <+: name) (cursor : CursorLine) :
    ∃ insertion,
      Insertion.resolve? name cursor.position cursor.replaced cursor.line cursor.propertyLine =
        some insertion ∧
      resolve name cursor = pure insertion := by
  rw [resolve, Insertion.resolve?, openCall?_eq, pure_bind]
  cases ho : OpenCall.before? cursor.position cursor.line with
  | some call =>
    obtain ⟨front, dashes, typed, rest, hs⟩ := OpenCall.exists_stands ho
    exact exists_complete hs hn cursor.position
  | none =>
    simp only
    split
    · exact ⟨_, rfl, rfl⟩
    · split
      · exact ⟨_, rfl, rfl⟩
      · exact ⟨_, rfl, rfl⟩

def cursorLine? (t : Text) (position : Position) : Sliced (Option CursorLine) := do
  match ← line? t position.line with
  | none => return none
  | some line =>
    let replaced := (← range? isNonBlank line position).getD (Range.at position)
    return some ⟨position, line, replaced, line.contains CursorLine.propertyMark⟩

theorem cursorLine?_eq (t : Text) (position : Position) :
    cursorLine? t position = pure (CursorLine.ofDocument? t position) := by
  rw [cursorLine?, CursorLine.ofDocument?, line?_eq, pure_bind]
  cases t.line? position.line with
  | none => rfl
  | some line =>
    simp only [range?_eq, pure_bind]
    rfl

def item (d : Declaration) (cursor : CursorLine) (swatches : Bool) : Sliced CompletionItem := do
  return .ofInsertion d swatches (← resolve d.name cursor)

theorem exists_item {d : Declaration} (hn : nameMark <+: d.name) (cursor : CursorLine)
    (swatches : Bool) :
    ∃ offered, CompletionItem.build? d cursor swatches = some offered ∧
      item d cursor swatches = pure offered := by
  obtain ⟨insertion, hi, hs⟩ := exists_resolve hn cursor
  refine ⟨.ofInsertion d swatches insertion, ?_, ?_⟩
  · rw [CompletionItem.build?, hi]
    rfl
  · rw [item, hs, pure_bind]

/-- Every declaration of a list gets its item. -/
theorem mapM_item {ds : List Declaration} (h : ∀ d ∈ ds, nameMark <+: d.name) (cursor : CursorLine)
    (swatches : Bool) :
    (ds.mapM fun d => item d cursor swatches) =
      pure (ds.filterMap fun d => CompletionItem.build? d cursor swatches) := by
  induction ds with
  | nil => rfl
  | cons d ds ih =>
    obtain ⟨hd, hds⟩ := List.forall_mem_cons.1 h
    obtain ⟨offered, hb, hi⟩ := exists_item hd cursor swatches
    rw [List.mapM_cons, hi, ih hds, List.filterMap_cons, hb, pure_bind, pure_bind]

def change (t : Text) (c : Change) : Sliced Text :=
  match c.range with
  | none => return c.text
  | some range =>
    match t.offset? range.start, t.offset? range.stop with
    | some start, some stop => if start ≤ stop then splice t start stop c.text else return c.text
    | _, _ => return c.text

/-- The offset of a position is a cut of the text. -/
theorem isCut_of_offset? {t : Text} {p : Position} {n : Nat} (h : t.offset? p = some n) :
    t.isCut n = true ∧ n ≤ t.byteSize := by
  rw [offset?_eq] at h
  split at h
  · cases h
    obtain ⟨tail, -, ht⟩ := append_before t p
    have hcut := isCut_append (t.before p) (tail ++ fromLine (p.line + 1) t)
    have hsize := congrArg byteSize ht
    rw [← ht] at hcut
    rw [byteSize_append] at hsize
    exact ⟨hcut, by omega⟩
  · cases h

/-- Offsets in order can be replaced between, even where their positions are not in order. -/
theorem isSlice_offsets {t : Text} {p q : Position} {start stop : Nat}
    (hp : t.offset? p = some start) (hq : t.offset? q = some stop) (h : start ≤ stop) :
    IsSlice t start stop :=
  ⟨h, (isCut_of_offset? hq).2, (isCut_of_offset? hp).1, (isCut_of_offset? hq).1⟩

theorem change_eq (t : Text) (c : Change) : change t c = pure (t.change c) := by
  rw [change, Text.change]
  cases c.range with
  | none => rfl
  | some range =>
    simp only
    cases hstart : t.offset? range.start with
    | none => rfl
    | some start =>
      cases hstop : t.offset? range.stop with
      | none => rfl
      | some stop =>
        by_cases hle : start ≤ stop
        · simp only [if_pos hle, splice, if_pos (isSlice_offsets hstart hstop hle)]
        · simp only [if_neg hle]

theorem foldlM_change (changes : List Change) (t : Text) :
    changes.foldlM change t = pure (changes.foldl Text.change t) := by
  induction changes generalizing t with
  | nil => rfl
  | cons c changes ih => rw [List.foldlM_cons, change_eq, pure_bind, ih, List.foldl_cons]

/-- The declaration that wins for the variable at a position. -/
def resolved? (index : Index) (t : Text) (p : Position) : Sliced (Option Declaration) := do
  return (← variableAt t p).toOption.bind index.first?

theorem resolved?_eq (index : Index) (t : Text) (p : Position) :
    resolved? index t p = pure (index.resolved? t p) := by
  rw [resolved?, variableAt_eq, pure_bind]
  rfl

def hover? (s : Server) (uri : Uri) (p : Position) : Sliced (Option Text) := do
  match s.inSight? uri with
  | none => return none
  | some (doc, index) =>
    let found ← resolved? index doc.text p
    return found.map fun d => Swatch.preview d.value s.settings.colorPreview

theorem hover?_eq (s : Server) (uri : Uri) (p : Position) :
    hover? s uri p = pure (s.hover? uri p) := by
  cases hs : s.inSight? uri with
  | none => simp [hover?, Server.hover?, hs]
  | some sight =>
    rw [Server.hover?_eq hs]
    simp only [hover?, hs, resolved?_eq, pure_bind]

def definitions? (s : Server) (uri : Uri) (p : Position) : Sliced (Option (List Location)) := do
  match s.inSight? uri with
  | none => return none
  | some (doc, index) =>
    let found ← resolved? index doc.text p
    return found.map fun d => (index.named d.name).map fun e => ⟨e.uri, e.range⟩

theorem definitions?_eq (s : Server) (uri : Uri) (p : Position) :
    definitions? s uri p = pure (s.definitions? uri p) := by
  cases hs : s.inSight? uri with
  | none => simp [definitions?, Server.definitions?, hs]
  | some sight =>
    rw [Server.definitions?_eq hs]
    simp only [definitions?, hs, resolved?_eq, pure_bind]

def completions? (s : Server) (uri : Uri) (p : Position) :
    Sliced (Option (List CompletionItem)) := do
  match s.inSight? uri with
  | none => return none
  | some (doc, index) =>
    match ← cursorLine? doc.text p with
    | none => return none
    | some cursor =>
      return some (← index.winners.mapM fun d => item d cursor s.settings.colorPreview)

theorem completions?_eq (s : Server) (uri : Uri) (p : Position) :
    completions? s uri p = pure (s.completions? uri p) := by
  cases hs : s.inSight? uri with
  | none => simp [completions?, Server.completions?, hs]
  | some sight =>
    obtain ⟨doc, index⟩ := sight
    -- Only names that a search found are offered, and these start with two dashes.
    have hmark : ∀ d ∈ index.winners, nameMark <+: d.name := by
      intro d hd
      rw [Server.eq_build_of_inSight? hs] at hd
      exact Index.mark_of_mem_build (Index.firsts_subset _ hd)
    simp only [completions?, Server.completions?, hs, cursorLine?_eq, pure_bind,
      Option.bind_eq_bind, Option.bind_some]
    cases CursorLine.ofDocument? doc.text p with
    | none => rfl
    | some cursor =>
      simp only [mapM_item hmark, pure_bind]
      rfl

def changed (s : Server) (uri : Uri) (changes : List Change) : Sliced Server := do
  match s.documents.get? uri with
  | none => return s.changed uri changes
  | some doc =>
    let text ← changes.foldlM change doc.text
    return { s with documents := s.documents.put uri { doc with text } }.noteText uri text

theorem changed_eq (s : Server) (uri : Uri) (changes : List Change) :
    changed s uri changes = pure (s.changed uri changes) := by
  cases hd : s.documents.get? uri with
  | none => simp only [changed, hd]
  | some doc => simp only [changed, hd, foldlM_change, pure_bind, Server.changed, Server.revised?]

/-- In every state, whatever the document, the position and the changes, the three answers and the
change are computed without a refused slice. -/
theorem requests_slice_at_cuts (s : Server) (uri : Uri) :
    (∀ p, hover? s uri p = pure (s.hover? uri p)) ∧
    (∀ p, definitions? s uri p = pure (s.definitions? uri p)) ∧
    (∀ p, completions? s uri p = pure (s.completions? uri p)) ∧
    ∀ changes, changed s uri changes = pure (s.changed uri changes) :=
  ⟨hover?_eq s uri, definitions?_eq s uri, completions?_eq s uri, changed_eq s uri⟩

end Sliced

end CustomProps
