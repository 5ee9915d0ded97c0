import CustomProps.Swatch.Basic

/-!
Markup read back. A reader goes through the characters of a document in one of four modes: in the
text between tags, in the name of a tag, between the attributes of a tag, and in the quotes of a
value. Only the quotation mark that opened a value ends it, and only a tag ends a text, so text
without these characters is passed whole. References to the five escaped characters are decoded
afterwards.
-/

namespace CustomProps

namespace Markup

/-- What a reader comes upon: the name of a tag, with the slash or question mark in front of it; an
attribute of that tag; the text in front of the next tag. -/
inductive Event where
  | tag (name : Text)
  | attribute (name value : Text)
  | text (content : Text)
  deriving DecidableEq, Repr

/-- Where a reader is, with what it has seen there, backwards. -/
inductive Mode where
  | text (seen : Text)
  | tag (seen : Text)
  | attribute (seen : Text)
  | value (mark : Char) (name seen : Text)
  deriving DecidableEq, Repr

def step : Mode → Char → List Event × Mode
  | .text seen, c =>
    if c = '<' then ([.text seen.reverse], .tag []) else ([], .text (c :: seen))
  | .tag seen, c =>
    if c = '>' then ([.tag seen.reverse], .text [])
    else if isBlank c then ([.tag seen.reverse], .attribute [])
    else ([], .tag (c :: seen))
  | .attribute seen, c =>
    if c = '>' then ([], .text [])
    else if c = '"' ∨ c = '\'' then ([], .value c seen.reverse [])
    else if isBlank c ∨ c = '=' then ([], .attribute seen)
    else ([], .attribute (c :: seen))
  | .value mark name seen, c =>
    if c = mark then ([.attribute name seen.reverse], .attribute [])
    else ([], .value mark name (c :: seen))

/-- The events of a text, and the mode behind it. -/
def scan (m : Mode) : Text → List Event × Mode
  | [] => ([], m)
  | c :: t => ((step m c).1 ++ (scan (step m c).2 t).1, (scan (step m c).2 t).2)

/-- The events of a document. -/
def events (document : Text) : List Event := (scan (.text []) document).1

/-- A tag with its attributes and the text behind it. -/
structure Tag where
  name : Text
  attributes : List (Text × Text)
  content : Text
  deriving DecidableEq, Repr

/-- The tags of a list of events. -/
def tagsOf : List Event → List Tag
  | [] => []
  | .tag name :: es => ⟨name, attributesOf es, contentOf es⟩ :: tagsOf es
  | .attribute _ _ :: es => tagsOf es
  | .text _ :: es => tagsOf es
where
  /-- The attributes up to the next text. -/
  attributesOf : List Event → List (Text × Text)
    | .attribute name value :: es => (name, value) :: attributesOf es
    | _ => []
  /-- The text behind the attributes. -/
  contentOf : List Event → Text
    | .attribute _ _ :: es => contentOf es
    | .text content :: _ => content
    | _ => []

/-- The tags of a document with a given name. -/
def tags (name document : Text) : List Tag := (tagsOf (events document)).filter (·.name == name)

/-- The names of the tags of a document, in order. -/
def tagNames (document : Text) : List Text := (tagsOf (events document)).map (·.name)

/-- The values that the tags with a given name have for an attribute. -/
def values (tag name document : Text) : List Text :=
  (tags tag document).filterMap fun t => t.attributes.lookup name

/-- The texts behind the tags with a given name. -/
def contents (tag document : Text) : List Text := (tags tag document).map (·.content)

/-- References to the five escaped characters. -/
def references : List Text := ["&amp;", "&lt;", "&gt;", "&quot;", "&apos;"].map String.toList

/-- A text with its references decoded. -/
def decode : Text → Text
  | '&' :: 'a' :: 'm' :: 'p' :: ';' :: t => '&' :: decode t
  | '&' :: 'l' :: 't' :: ';' :: t => '<' :: decode t
  | '&' :: 'g' :: 't' :: ';' :: t => '>' :: decode t
  | '&' :: 'q' :: 'u' :: 'o' :: 't' :: ';' :: t => '"' :: decode t
  | '&' :: 'a' :: 'p' :: 'o' :: 's' :: ';' :: t => '\'' :: decode t
  | c :: t => c :: decode t
  | [] => []

theorem decode_cons {c : Char} (h : c ≠ '&') (t : Text) : decode (c :: t) = c :: decode t := by
  rw [decode]
  all_goals
    intro _ hc
    exact absurd hc h

theorem scan_append (m : Mode) (s t : Text) :
    scan m (s ++ t) = ((scan m s).1 ++ (scan (scan m s).2 t).1, (scan (scan m s).2 t).2) := by
  induction s generalizing m with
  | nil => simp [scan]
  | cons c s ih => simp [scan, ih]

/-- A value goes up to its mark. -/
theorem scan_value {mark : Char} {s : Text} (hs : mark ∉ s) (name seen : Text) :
    scan (.value mark name seen) s = ([], .value mark name (s.reverse ++ seen)) := by
  induction s generalizing seen with
  | nil => rfl
  | cons c s ih =>
    obtain ⟨hc, hs⟩ : mark ≠ c ∧ mark ∉ s := by simpa using hs
    simp [scan, step, hc.symm, ih hs]

/-- A text goes up to the next tag. -/
theorem scan_text {s : Text} (hs : '<' ∉ s) (seen : Text) :
    scan (.text seen) s = ([], .text (s.reverse ++ seen)) := by
  induction s generalizing seen with
  | nil => rfl
  | cons c s ih =>
    obtain ⟨hc, hs⟩ : '<' ≠ c ∧ '<' ∉ s := by simpa using hs
    simp [scan, step, hc.symm, ih hs]

/-- A mark ends its value, and a tag the text in front of it. -/
theorem scan_mark (mark : Char) (name seen t : Text) :
    scan (.value mark name seen) (mark :: t) =
      (.attribute name seen.reverse :: (scan (.attribute []) t).1, (scan (.attribute []) t).2) := by
  simp [scan, step]

theorem scan_less (seen t : Text) :
    scan (.text seen) ('<' :: t) =
      (.text seen.reverse :: (scan (.tag []) t).1, (scan (.tag []) t).2) := by
  simp [scan, step]

end Markup

/-! Escaped text holds none of the characters that end values and texts, and is decoded to what it
was. -/

namespace Swatch

open Markup (decode decode_cons references)

/-- A character that is escaped becomes a reference, and any other stays. -/
theorem escapeChar_cases (c : Char) :
    escapeChar c ∈ references ∨
      escapeChar c = [c] ∧ c ≠ '&' ∧ c ≠ '<' ∧ c ≠ '>' ∧ c ≠ '"' ∧ c ≠ '\'' := by
  unfold escapeChar
  split
  · exact .inl (by decide)
  · exact .inl (by decide)
  · exact .inl (by decide)
  · exact .inl (by decide)
  · exact .inl (by decide)
  · exact .inr ⟨rfl, by assumption, by assumption, by assumption, by assumption, by assumption⟩

theorem decode_escapeChar (c : Char) (t : Text) :
    decode (escapeChar c ++ t) = c :: decode t := by
  unfold escapeChar
  split
  · rfl
  · rfl
  · rfl
  · rfl
  · rfl
  · exact decode_cons (by assumption) t

theorem decode_escape (t : Text) : decode (escape t) = t := by
  induction t with
  | nil => rfl
  | cons c t ih =>
    rw [escape, List.flatMap_cons, decode_escapeChar]
    exact congrArg (c :: ·) ih

/-- Escaped text holds none of the characters of markup. -/
theorem ne_of_mem_escape {t : Text} {d : Char} (h : d ∈ escape t) :
    d ≠ '<' ∧ d ≠ '>' ∧ d ≠ '"' ∧ d ≠ '\'' := by
  have hreferences : references.all (fun e => e.all fun d =>
      decide (d ≠ '<' ∧ d ≠ '>' ∧ d ≠ '"' ∧ d ≠ '\'')) = true := by decide
  obtain ⟨c, -, hd⟩ := List.mem_flatMap.1 h
  rcases escapeChar_cases c with hmem | ⟨hsame, -, hrest⟩
  · exact of_decide_eq_true (List.all_eq_true.1 (List.all_eq_true.1 hreferences _ hmem) d hd)
  · rw [hsame, List.mem_singleton] at hd
    rw [hd]
    exact hrest

/-- Each ampersand in escaped text begins a reference. -/
theorem exists_reference {t s r : Text} (h : escape t = s ++ '&' :: r) :
    ∃ e ∈ references, e <+: '&' :: r := by
  have hreferences : ∀ e ∈ references, e.head? = some '&' ∧ '&' ∉ e.tail := by decide
  induction t generalizing s with
  | nil => simp [escape] at h
  | cons c t ih =>
    rw [escape, List.flatMap_cons] at h
    rcases List.append_eq_append_iff.1 h with ⟨a, -, ha⟩ | ⟨a, hc, ha⟩
    · exact ih ha
    · cases a with
      | nil => exact ih (s := []) ha.symm
      | cons d a =>
        obtain ⟨rfl, hr⟩ := List.cons.inj ha
        -- The ampersand stands in the image of `c`, so it is its first character.
        rcases escapeChar_cases c with hmem | ⟨hsame, hne, -⟩
        · cases s with
          | nil =>
            refine ⟨_, hmem, t.flatMap escapeChar, ?_⟩
            rw [hc, hr]
            rfl
          | cons b s =>
            have htail := (hreferences _ hmem).2
            rw [hc] at htail
            simp at htail
        · have hamp : '&' ∈ [c] := by
            rw [← hsame, hc]
            simp
          exact absurd (List.mem_singleton.1 hamp).symm hne

end Swatch

end CustomProps
