import CustomProps.Text.Utf8

/-!
The regions of a script text are its string literals and its line comments. They are found on the
bytes of the text: every delimiter is one byte, and no byte of a longer character equals one, so the
spans found fall between characters. A literal in backticks may cross lines; one in quotes ends its
search at the end of the line, and then only its opening quote is passed over. A backtick that is
never closed ends the search.
-/

namespace CustomProps

inductive RegionKind where
  | literal
  | comment
  deriving DecidableEq, Repr

/-- A piece of the text between two byte offsets. -/
structure Span where
  kind : RegionKind
  start : Nat
  stop : Nat
  deriving DecidableEq, Repr

/-- A literal or comment with its content, which starts at byte `start` of the whole text. -/
structure Region where
  kind : RegionKind
  content : Text
  start : Nat
  deriving DecidableEq, Repr

namespace Span

def lineFeed : UInt8 := 0x0A
def carriageReturn : UInt8 := 0x0D
def slash : UInt8 := 0x2F
def backslash : UInt8 := 0x5C
def backtick : UInt8 := 0x60
def singleQuote : UInt8 := 0x27
def doubleQuote : UInt8 := 0x22

def isQuote (b : UInt8) : Bool := b == backtick || b == singleQuote || b == doubleQuote

/-- How many bytes stand before the delimiter that closes a literal. A backslash takes the byte
after it along; only a backtick literal goes past a line feed. -/
def bodyLength? (quote : UInt8) : Bytes → Option Nat
  | [] => none
  | b :: bs =>
    if b == backslash then
      match bs with
      | [] => none
      | _ :: bs => (bodyLength? quote bs).map (· + 2)
    else if b == lineFeed && quote != backtick then none
    else if b == quote then some 0
    else (bodyLength? quote bs).map (· + 1)

/-- How many bytes stand before the next line feed or the end. -/
def lineLength (bs : Bytes) : Nat := (bs.takeWhile (· != lineFeed)).length

/-- The length of a comment's content, which leaves out a carriage return at the end of its line. -/
def commentLength (bs : Bytes) : Nat :=
  let line := bs.take (lineLength bs)
  if line.getLast? = some carriageReturn then lineLength bs - 1 else lineLength bs

/-- The spans of the bytes `bs`, which start at offset `i`. -/
def scan (i : Nat) : Bytes → List Span
  | [] => []
  | b :: bs =>
    if b == slash && bs.head? == some slash then
      let body := bs.tail
      ⟨.comment, i + 2, i + 2 + commentLength body⟩ ::
        scan (i + 2 + lineLength body) (body.drop (lineLength body))
    else if isQuote b then
      match bodyLength? b bs with
      | some n => ⟨.literal, i + 1, i + 1 + n⟩ :: scan (i + n + 2) (bs.drop (n + 1))
      | none => if b == backtick then [] else scan (i + 1) bs
    else scan (i + 1) bs
termination_by bs => bs.length
decreasing_by
  case _ => simp only [List.length_drop, List.length_tail, List.length_cons]; omega
  case _ => simp only [List.length_drop, List.length_cons]; omega
  case _ => exact Nat.lt_succ_self _
  case _ => exact Nat.lt_succ_self _

end Span

/-- The region that a span cuts out of a text. -/
def Region.ofSpan (t : Text) (s : Span) : Region := ⟨s.kind, t.slice s.start s.stop, s.start⟩

/-- The literals and comments of a text, left to right. -/
def Text.regions (t : Text) : List Region := (Span.scan 0 t.utf8).map (Region.ofSpan t)

end CustomProps
