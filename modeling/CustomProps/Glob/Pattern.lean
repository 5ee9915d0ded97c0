import CustomProps.Text.Utf8

/-!
Glob patterns and how they are read. Wildcards match across slashes. Two stars in a row stand for
whole directories where they fill the place between slashes, and are two single stars elsewhere.
Braces hold alternatives and may be nested.
-/

namespace CustomProps

inductive GlobToken where
  /-- One character, matched as its bytes. -/
  | char (c : Char)
  /-- Any one byte. -/
  | any
  /-- Any bytes. -/
  | star
  /-- Nothing, or anything that ends with a slash. -/
  | treeStart
  /-- A slash and anything after it. -/
  | treeEnd
  /-- A slash, or anything between two slashes with them. -/
  | treeMiddle
  /-- One byte of the given ranges, or one outside of them. -/
  | oneOf (negated : Bool) (ranges : List (Char × Char))
  /-- One of several patterns. -/
  | alternatives (branches : List (List GlobToken))
  deriving Repr

/-- A pattern that was read. -/
structure Glob where
  tokens : List GlobToken
  deriving Repr

namespace Glob

/-- What has been read of a pattern: the tokens of the current branch, the finished branches beside
it, and the same of the braces around, innermost first. -/
structure Draft where
  current : List GlobToken
  branches : List (List GlobToken)
  outer : List (List GlobToken × List (List GlobToken))

namespace Draft

def empty : Draft := ⟨[], [], []⟩

def push (d : Draft) (token : GlobToken) : Draft := { d with current := d.current ++ [token] }

def inBraces (d : Draft) : Bool := !d.outer.isEmpty

/-- Puts a directory wildcard in the place of the last token, which is the slash before it; after
another directory wildcard it adds nothing. -/
def pushTree (d : Draft) (token : GlobToken) : Draft :=
  match d.current.getLast? with
  | some .treeStart | some .treeEnd => d
  | _ => { d with current := d.current.dropLast ++ [token] }

def openBrace (d : Draft) : Draft := ⟨[], [], (d.current, d.branches) :: d.outer⟩

def comma (d : Draft) : Draft :=
  if d.inBraces then { d with current := [], branches := d.branches ++ [d.current] }
  else d.push (.char ',')

def closeBrace? (d : Draft) : Option Draft :=
  match d.outer with
  | [] => none
  | (current, branches) :: outer =>
    some ⟨current ++ [.alternatives (d.branches ++ [d.current])], branches, outer⟩

end Draft

/-- Reads the characters of a class up to its closing bracket. `done` are the ranges read, the last
first. A bracket or dash in front stands for itself, and so does a dash at the end; a dash elsewhere
stretches the last range to the next character, which must not come before its start. -/
def readRanges (done : List (Char × Char)) (first stretch : Bool) :
    Text → Option (List (Char × Char) × Text)
  | [] => none
  | c :: t =>
    if c == ']' && !first then
      some ((if stretch then ('-', '-') :: done else done).reverse, t)
    else if c == '-' && !first && !stretch then readRanges done false true t
    else if stretch then
      match done with
      | (low, _) :: done => if c < low then none else readRanges ((low, c) :: done) false false t
      | [] => none
    else readRanges ((c, c) :: done) false false t

theorem readRanges_length {done : List (Char × Char)} {first stretch : Bool} {t rest : Text}
    {ranges : List (Char × Char)} (h : readRanges done first stretch t = some (ranges, rest)) :
    rest.length < t.length := by
  induction t generalizing done first stretch with
  | nil => simp [readRanges] at h
  | cons c t ih =>
    unfold readRanges at h
    split at h
    · simp only [Option.some.injEq, Prod.mk.injEq] at h
      simp [h.2]
    · split at h
      · exact Nat.lt_succ_of_lt (ih h)
      · split at h
        · split at h
          · split at h
            · exact absurd h (by simp)
            · exact Nat.lt_succ_of_lt (ih h)
          · exact absurd h (by simp)
        · exact Nat.lt_succ_of_lt (ih h)

/-- Reads a class after its opening bracket. -/
def readClass (t : Text) : Option (GlobToken × Text) :=
  match t with
  | [] => none
  | c :: rest =>
    if c == '!' || c == '^' then
      (readRanges [] true false rest).map fun (ranges, rest) => (.oneOf true ranges, rest)
    else (readRanges [] true false t).map fun (ranges, rest) => (.oneOf false ranges, rest)

theorem readClass_length {t rest : Text} {token : GlobToken}
    (h : readClass t = some (token, rest)) : rest.length < t.length := by
  unfold readClass at h
  split at h
  · exact absurd h (by simp)
  · split at h
    · obtain ⟨⟨ranges, r⟩, h₁, h₂⟩ := Option.map_eq_some_iff.1 h
      simp only [Prod.mk.injEq] at h₂
      exact Nat.lt_succ_of_lt (h₂.2 ▸ readRanges_length h₁)
    · obtain ⟨⟨ranges, r⟩, h₁, h₂⟩ := Option.map_eq_some_iff.1 h
      simp only [Prod.mk.injEq] at h₂
      exact h₂.2 ▸ readRanges_length h₁

/-- Where two stars stand: they are whole directories at the start of a branch, before a slash or
the end, and between a slash and another slash or the end. -/
inductive StarPlace where
  | start
  | finish
  | middle
  | plain
  deriving DecidableEq, Repr

/-- The place of two stars after the character `before` and before the text `rest`. Inside braces a
comma or brace counts as a boundary too. -/
def starPlace (d : Draft) (before : Option Char) (rest : Text) : StarPlace :=
  let next := rest.head?
  if d.current.isEmpty then
    if next == none || next == some '/' then .start else .plain
  else if before == some '/' ||
      (d.inBraces && (before == some ',' || before == some '\x7b')) then
    if next == none || (d.inBraces && (next == some ',' || next == some '\x7d')) then .finish
    else if next == some '/' then .middle
    else .plain
  else .plain

/-- Reads the rest of a pattern; `before` is the character just read. -/
def read (d : Draft) (before : Option Char) : Text → Option Draft
  | [] => some d
  | '?' :: t => read (d.push .any) (some '?') t
  | '*' :: '*' :: t =>
    match starPlace d before t with
    | .start => read (d.push .treeStart) (some '/') (t.drop 1)
    | .finish => read (d.pushTree .treeEnd) (some '*') t
    | .middle => read (d.pushTree .treeMiddle) (some '/') (t.drop 1)
    | .plain => read ((d.push .star).push .star) (some '*') t
  | '*' :: t => read (d.push .star) (some '*') t
  | '[' :: t =>
    match _h : readClass t with
    | some (token, rest) => read (d.push token) (some ']') rest
    | none => none
  | '\x7b' :: t => read d.openBrace (some '\x7b') t
  | '\x7d' :: t =>
    match d.closeBrace? with
    | some d => read d (some '\x7d') t
    | none => none
  | ',' :: t => read d.comma (some ',') t
  | '\\' :: t =>
    match t with
    | [] => none
    | c :: t => read (d.push (.char c)) (some c) t
  | c :: t => read (d.push (.char c)) (some c) t
termination_by t => t.length
decreasing_by
  case _ => exact Nat.lt_succ_self _
  case _ => simp only [List.length_drop, List.length_cons]; omega
  case _ => simp only [List.length_cons]; omega
  case _ => simp only [List.length_drop, List.length_cons]; omega
  case _ => simp only [List.length_cons]; omega
  case _ => exact Nat.lt_succ_self _
  case _ => exact Nat.lt_succ_of_lt (readClass_length _h)
  case _ => exact Nat.lt_succ_self _
  case _ => exact Nat.lt_succ_self _
  case _ => exact Nat.lt_succ_self _
  case _ => simp only [List.length_cons]; omega
  case _ => exact Nat.lt_succ_self _

/-- The pattern that a text spells; an unclosed bracket or brace, a brace that closes nothing, a
backward range and a backslash at the end make it no pattern. -/
def parse? (t : Text) : Option Glob := do
  let d ← read .empty none t
  if d.inBraces then none else some ⟨d.current⟩

end Glob

end CustomProps
