import CustomProps.Server.Step

/-!
What one message can do to the server. In the running phase a notification carries a notice, and the
step does what the notice asks. Any other message leaves sources and documents as they are: it may
move the phase, or set up the connection. Every state of every session is reached from a fresh
server by such steps, with the disk and the client's folders free to change between them.
-/

namespace CustomProps

/-- What a notification asks of the server. -/
inductive Notice where
  | ready (known : Option (List Uri))
  | opened (uri : Uri) (language text : Text)
  | changed (uri : Uri) (changes : List Change)
  | closed (uri : Uri)
  | files (events : List (Uri × FileEvent))
  | folders (added removed : List Uri)
  deriving DecidableEq, Repr

namespace Notice

/-- The notice that a method's parameters spell. -/
def read? (w : World) (method : String) (j : Json) : Option Notice :=
  match method with
  | "initialized" => (Wire.nothing? j).map fun _ => .ready (Wire.clientFolders? w.folders)
  | "textDocument/didOpen" => (Wire.opened? j).map fun o => .opened o.uri o.language o.text
  | "textDocument/didChange" => (Wire.changed? j).map fun (uri, changes) => .changed uri changes
  | "textDocument/didClose" => (Wire.closed? j).map .closed
  | "workspace/didChangeWatchedFiles" => (Wire.fileEvents? j).map .files
  | "workspace/didChangeWorkspaceFolders" =>
    (Wire.folderEvent? j).map fun (added, removed) => .folders added removed
  | _ => none

/-- The notice that a message carries. -/
def of? (w : World) (m : Message) : Option Notice :=
  if m.expectsAnswer then none else m.params.bind (read? w (String.ofList m.method))

/-- What the server makes of a notice. -/
def run (d : Disk) (s : Server) : Notice → Server × List ClientMessage
  | .ready known => s.ready d known
  | .opened uri language text => (s.opened uri language text, [])
  | .changed uri changes => (s.changed uri changes, [])
  | .closed uri => (s.closed d uri, [])
  | .files events => (s.filesChanged d events, [])
  | .folders added removed => s.foldersChanged d added removed

end Notice

namespace Server

/-- A method whose parameters can spell a notice is a notification and nothing else. -/
theorem method_of_notice {w : World} {method : String} {j : Json} {n : Notice}
    (h : Notice.read? w method j = some n) (s : Server) :
    (method ≠ "exit" ∧ method ≠ "initialize" ∧ method ≠ "shutdown" ∧
      method ≠ "$/cancelRequest") ∧
    s.answer? method = none ∧
    ∃ effect, s.effect? w method = some effect ∧ effect j = some (n.run w.disk s) := by
  unfold Notice.read? at h
  split at h
  case h_7 => cases h
  all_goals
    obtain ⟨x, hx, rfl⟩ := Option.map_eq_some_iff.1 h
    exact ⟨by decide, rfl, _, rfl, by simp [hx, Notice.run]⟩

/-- In the running phase a message does what its notice asks. -/
theorem step_of_notice {w : World} {s : Server} {m : Message} {n : Notice}
    (hp : s.phase = .running) (hn : Notice.of? w m = some n) :
    s.step w m = ⟨(n.run w.disk s).1, .none, (n.run w.disk s).2⟩ := by
  have ha : m.expectsAnswer = false := by
    cases h : m.expectsAnswer with
    | false => rfl
    | true => simp [Notice.of?, h] at hn
  rw [Notice.of?, ha, if_neg Bool.false_ne_true] at hn
  obtain ⟨j, hj, hr⟩ := Option.bind_eq_some_iff.1 hn
  obtain ⟨⟨he, hi, hs, hc⟩, hans, effect, heff, hrun⟩ := method_of_notice hr s
  have hb : m.params.bind effect = some (n.run w.disk s) := by rw [hj]; exact hrun
  simp [step, hp, he, hi, hs, hc, hans, heff, stepNotification, ha, hb]

/-- Steps that leave sources and documents alone. None of them goes back to waiting. -/
inductive Idles (s : Server) : Server → Prop where
  | turns (phase : Phase) (h : phase = .waiting → s.phase = .waiting) : Idles s { s with phase }
  | setsUp (setup : Wire.Setup) (h : s.phase = .waiting) : Idles s (s.setUp setup)

theorem Idles.refl (s : Server) : Idles s s := .turns s.phase id

theorem Idles.sources {s t : Server} (h : Idles s t) : t.sources = s.sources := by
  cases h <;> rfl

theorem Idles.documents {s t : Server} (h : Idles s t) : t.documents = s.documents := by
  cases h <;> rfl

theorem idles_refuse (s : Server) (m : Message) (e : RpcError) : Idles s (s.refuse m e).server :=
  .refl s

theorem idles_stepSetUp (s : Server) (m : Message) : Idles s (s.stepSetUp m).server := by
  unfold stepSetUp
  split
  · rename_i hp
    split
    · split
      · exact .setsUp _ hp
      · exact .refl s
    · exact .refl s
  · exact idles_refuse _ _ _

theorem idles_stepShutDown (s : Server) (m : Message) : Idles s (s.stepShutDown m).server := by
  unfold stepShutDown
  split
  · simp only
    have hstopped : Idles s { s with phase := .stopped } := .turns .stopped (by simp)
    split
    · exact hstopped
    · exact hstopped
  · exact idles_refuse _ _ _

theorem idles_stepRequest (s : Server) (m : Message)
    (answer : Json → Option (Except RpcError Json)) : Idles s (s.stepRequest m answer).server := by
  unfold stepRequest
  split
  · split
    · split <;> exact .refl s
    · exact .refl s
  · exact idles_refuse _ _ _

/-- The effect of a method is what its notice asks, or nothing. -/
theorem effect?_eq {w : World} {s : Server} {method : String}
    {effect : Json → Option (Server × List ClientMessage)}
    (h : s.effect? w method = some effect) (j : Json) :
    effect j = (Notice.read? w method j).map (·.run w.disk s) ∨ effect j = some (s, []) := by
  unfold effect? at h
  split at h
  case h_7 =>
    split at h
    · cases h
      exact .inr rfl
    · cases h
  all_goals
    cases h
    left
    simp [Notice.read?, Notice.run, Option.map_map, Function.comp_def]

theorem idles_stepNotification {w : World} {s : Server} {m : Message}
    {effect : Json → Option (Server × List ClientMessage)}
    (he : s.effect? w (String.ofList m.method) = some effect)
    (hn : s.phase = .running → Notice.of? w m = none) :
    Idles s (s.stepNotification m effect).server := by
  unfold stepNotification
  split
  · rename_i hp
    split
    · exact idles_refuse _ _ _
    · rename_i ha
      have hr := hn hp
      rw [Notice.of?, if_neg ha] at hr
      cases hj : m.params with
      | none => exact .refl s
      | some j =>
        rw [hj, Option.bind_some] at hr
        rw [Option.bind_some]
        rcases effect?_eq he j with h | h
        · rw [h, hr]
          exact .refl s
        · rw [h]
          exact .refl s
  · exact idles_refuse _ _ _

/-- A message that carries no notice, or comes out of the running phase, leaves sources and
documents as they are. -/
theorem step_idles {w : World} {s : Server} {m : Message}
    (hn : s.phase = .running → Notice.of? w m = none) : Idles s (s.step w m).server := by
  unfold step
  split
  · exact .refl s
  · simp only
    split
    · exact .turns .exited (by simp)
    split
    · exact idles_stepSetUp s m
    split
    · exact idles_stepShutDown s m
    split
    · exact idles_refuse _ _ _
    split
    · exact idles_stepRequest s m _
    split
    · rename_i heff
      exact idles_stepNotification heff hn
    split
    · exact .refl s
    · exact idles_refuse _ _ _

/-- Every step does what the notice of the message asks, or idles if there is none to follow. -/
theorem step_cases (w : World) (s : Server) (m : Message) :
    (∃ n : Notice, s.phase = .running ∧ Notice.of? w m = some n ∧
      (s.step w m).server = (n.run w.disk s).1) ∨
    ((s.phase = .running → Notice.of? w m = none) ∧ Idles s (s.step w m).server) := by
  by_cases hp : s.phase = .running
  · cases hn : Notice.of? w m with
    | some n => exact .inl ⟨n, hp, rfl, by rw [step_of_notice hp hn]⟩
    | none => exact .inr ⟨fun _ => rfl, step_idles fun _ => hn⟩
  · exact .inr ⟨fun h => absurd h hp, step_idles fun h => absurd h hp⟩

/-- The states that a fresh server can come to, whatever messages it gets and whatever happens on
the disk between them. -/
inductive Reachable (options : StartOptions) : Server → Prop where
  | start : Reachable options (start options)
  | step {s : Server} (w : World) (m : Message) (h : Reachable options s) :
    Reachable options (s.step w m).server

/-- What holds of a fresh server and is kept by notices and idle steps holds of every reachable
state. -/
theorem Reachable.invariant {options : StartOptions} {P : Server → Prop}
    (hstart : P (Server.start options))
    (hrun : ∀ d s n, P s → P (Notice.run d s n).1)
    (hidle : ∀ s t, P s → Idles s t → P t)
    {s : Server} (h : Reachable options s) : P s := by
  induction h with
  | start => exact hstart
  | @step s w m _ ih =>
    rcases step_cases w s m with ⟨n, -, -, he⟩ | ⟨-, hi⟩
    · rw [he]
      exact hrun w.disk s n ih
    · exact hidle s _ ih hi

end Server

/-! Messages of a short session, with a workspace folder and nothing on the disk. -/

namespace Sample

def options : StartOptions := ⟨none, none, none, true⟩

def world : World := ⟨Disk.empty, .null⟩

def setUp : Message :=
  ⟨"initialize".toList,
    some (.mkObj [("capabilities", .mkObj []), ("rootUri", .ofString "file:///w")]), true⟩

def document : String := "file:///w/a.globals.ts"

def uri : Uri := ⟨"file".toList, some .nobody, "/w/a.globals.ts".toList, none, none⟩

def opening (text : String) : Message :=
  ⟨"textDocument/didOpen".toList, some (.mkObj [("textDocument", .mkObj [
    ("uri", .ofString document), ("languageId", .ofString "typescript"), ("version", .ofNat 1),
    ("text", .ofString text)])]), false⟩

def editing (changes : List Change) : Message :=
  ⟨"textDocument/didChange".toList, some (.mkObj [
    ("textDocument", .mkObj [("uri", .ofString document), ("version", .ofNat 2)]),
    ("contentChanges", .arr (changes.map fun c => .mkObj [
      ("range", (c.range.map Wire.ofRange).getD .null), ("text", .str c.text)]))]), false⟩

end Sample

end CustomProps
