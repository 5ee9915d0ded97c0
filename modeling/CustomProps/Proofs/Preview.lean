import CustomProps.Proofs.Base64
import CustomProps.Proofs.Markup
import CustomProps.Proofs.Utf8Read

/-!
A value in its preview. A colour is shown as an image whose address holds the picture in Base64; the
picture has the value twice, as the fill of its rectangle and as its label, each escaped for markup.
Both layers are read back: the bytes, the text, the tags and the references give the value again.
Values that are no colours are shown as they are, and no colour looks like its own image.
-/

namespace CustomProps

namespace Text

/-- A first character that is no blank stays the first. -/
theorem exists_trim_cons {c : Char} (hc : isBlank c = false) (t : Text) :
    ∃ rest, trim (c :: t) = c :: rest := by
  have hstart : trimStart (c :: t) = c :: t := by
    rw [trimStart, List.dropWhile_cons_of_neg (by simp [hc])]
  rw [trim, hstart, trimEnd, List.reverse_cons, List.dropWhile_append]
  split
  · exact ⟨[], by simp [hc]⟩
  · exact ⟨(t.reverse.dropWhile isBlank).reverse, by simp⟩

end Text

namespace Color

theorem parse_eq_ok_iff {value : Text} {color : Color} :
    parse value = .ok color ↔ ofTrimmed? (Text.trim value) = some color := by
  rw [parse]
  cases ofTrimmed? (Text.trim value) <;> simp

end Color

namespace Swatch

open Markup

/-- What stands before the fill of the rectangle in a picture. -/
def svgFront : Text :=
  "<?xml version=\"1.0\" encoding=\"utf-8\"?>\n".toList
    ++ ("<svg version=\"1.1\" xmlns=\"http://www.w3.org/2000/svg\" " ++
      "width=\"200\" height=\"100\">\n").toList
    ++ "  <rect x=\"0\" y=\"0\" rx=\"5\" ry=\"5\" width=\"200\" height=\"100\" fill=\"".toList

/-- What stands between the fill of the rectangle and that of the label. -/
def svgMiddle : Text :=
  ("\"/>\n  <text x=\"50%\" y=\"50%\" dominant-baseline=\"middle\" " ++
    "text-anchor=\"middle\" fill=\"").toList

/-- What stands behind the label. -/
def svgFoot : Text := "</text>\n</svg>\n".toList

theorem svg_eq (fill label : Text) :
    svg fill label =
      svgFront ++ (fill ++ (svgMiddle ++ (label ++ ("\">".toList ++ (fill ++ svgFoot))))) := by
  -- Stated for any pieces, so that the literals stay closed.
  have happend : ∀ a b c d e f g h i : Text,
      a ++ b ++ c ++ d ++ e ++ f ++ g ++ h ++ i =
        (a ++ b ++ c) ++ (d ++ (e ++ (f ++ (g ++ (h ++ i))))) := by simp
  exact happend ..

/-- A tag and its attributes. -/
def opening (name : String) (attributes : List (String × String)) : List Event :=
  .tag name.toList :: attributes.map fun a => .attribute a.1.toList a.2.toList

theorem scan_front : scan (.text []) svgFront =
    (.text [] :: opening "?xml" [("version", "1.0"), ("encoding", "utf-8")] ++
      .text ['\n'] :: opening "svg" [("version", "1.1"), ("xmlns", "http://www.w3.org/2000/svg"),
        ("width", "200"), ("height", "100")] ++
      .text "\n  ".toList :: opening "rect" [("x", "0"), ("y", "0"), ("rx", "5"), ("ry", "5"),
        ("width", "200"), ("height", "100")],
      .value '"' "fill".toList []) := by decide +kernel

/-- The mark in front ends the fill. -/
theorem scan_middle (seen : Text) : scan (.value '"' "fill".toList seen) svgMiddle =
    (.attribute "fill".toList seen.reverse :: .text "\n  ".toList ::
        opening "text" [("x", "50%"), ("y", "50%"), ("dominant-baseline", "middle"),
          ("text-anchor", "middle")],
      .value '"' "fill".toList []) := by
  have hmark : svgMiddle.head? = some '"' := by decide +kernel
  have hrest : scan (.attribute []) svgMiddle.tail =
      (.text "\n  ".toList :: opening "text" [("x", "50%"), ("y", "50%"),
        ("dominant-baseline", "middle"), ("text-anchor", "middle")],
        .value '"' "fill".toList []) := by decide +kernel
  obtain ⟨rest, hmiddle⟩ := List.head?_eq_some_iff.1 hmark
  rw [hmiddle] at hrest ⊢
  rw [List.tail_cons] at hrest
  rw [scan_mark, hrest]

theorem scan_foot (seen : Text) : scan (.text seen) svgFoot =
    (.text seen.reverse :: opening "/text" [] ++ .text ['\n'] :: opening "/svg" [],
      .text ['\n']) := by
  have hless : svgFoot.head? = some '<' := by decide +kernel
  have hrest : scan (.tag []) svgFoot.tail =
      (opening "/text" [] ++ .text ['\n'] :: opening "/svg" [], .text ['\n']) := by decide +kernel
  obtain ⟨rest, hfoot⟩ := List.head?_eq_some_iff.1 hless
  rw [hfoot] at hrest ⊢
  rw [List.tail_cons] at hrest
  rw [scan_less, hrest]
  rfl

/-- The events of a picture. -/
theorem events_svg {fill label : Text} (hmark : '"' ∉ fill) (hless : '<' ∉ fill)
    (hlabel : '"' ∉ label) : events (svg fill label) =
      .text [] :: opening "?xml" [("version", "1.0"), ("encoding", "utf-8")] ++
      .text ['\n'] :: opening "svg" [("version", "1.1"), ("xmlns", "http://www.w3.org/2000/svg"),
        ("width", "200"), ("height", "100")] ++
      .text "\n  ".toList :: opening "rect" [("x", "0"), ("y", "0"), ("rx", "5"), ("ry", "5"),
        ("width", "200"), ("height", "100")] ++
      .attribute "fill".toList fill :: .text "\n  ".toList ::
        opening "text" [("x", "50%"), ("y", "50%"), ("dominant-baseline", "middle"),
          ("text-anchor", "middle")] ++
      .attribute "fill".toList label :: .text fill :: opening "/text" [] ++
      .text ['\n'] :: opening "/svg" [] := by
  have hend : scan (.attribute []) ['>'] = ([], .text []) := rfl
  have hbetween : "\">".toList = ['"', '>'] := by decide
  rw [events, svg_eq, scan_append, scan_front, scan_append, scan_value hmark, scan_append,
    scan_middle, scan_append, scan_value hlabel, scan_append, hbetween, scan_mark, hend,
    scan_append, scan_text hless, scan_foot]
  simp

/-- A picture with a value as the fill of its one rectangle and as its one label. -/
structure IsPictureOf (picture value : Text) : Prop where
  names : tagNames picture = ["?xml", "svg", "rect", "text", "/text", "/svg"].map String.toList
  fill : (values "rect".toList "fill".toList picture).map decode = [value]
  label : (contents "text".toList picture).map decode = [value]

theorem isPictureOf_svg (value : Text) {label : Text} (hlabel : '"' ∉ label) :
    IsPictureOf (svg (escape value) label) value := by
  have hmark : '"' ∉ escape value := fun h => (ne_of_mem_escape h).2.2.1 rfl
  have hless : '<' ∉ escape value := fun h => (ne_of_mem_escape h).1 rfl
  have hevents := events_svg hmark hless hlabel
  refine ⟨?_, ?_, ?_⟩
  · rw [tagNames, hevents]
    rfl
  · have hvalues : values "rect".toList "fill".toList (svg (escape value) label) =
        [escape value] := by
      rw [values, tags, hevents]
      rfl
    rw [hvalues, List.map_singleton, decode_escape]
  · have hcontents : contents "text".toList (svg (escape value) label) = [escape value] := by
      rw [contents, tags, hevents]
      rfl
    rw [hcontents, List.map_singleton, decode_escape]

theorem not_mem_labelFill (color : Color) : '"' ∉ labelFill color := by
  rw [labelFill]
  split
  · decide
  · decide

theorem ofTrimmed?_exclamation (t : Text) : Color.ofTrimmed? ('!' :: t) = none := by
  have hlower : Color.lower ('!' :: t) = '!' :: Color.lower t := rfl
  simp [Color.ofTrimmed?, hlower, Text.after?]

/-- No image is a colour: images begin with an exclamation mark. -/
theorem ofTrimmed?_trim_image (picture : Text) :
    Color.ofTrimmed? (Text.trim (image picture)) = none := by
  obtain ⟨rest, hrest⟩ : ∃ rest, image picture = '!' :: rest := ⟨_, rfl⟩
  obtain ⟨trimmed, htrimmed⟩ := Text.exists_trim_cons (show isBlank '!' = false by decide) rest
  rw [hrest, htrimmed, ofTrimmed?_exclamation]

theorem preview_of_ok {value : Text} {color : Color} (h : Color.parse value = .ok color) :
    preview value true = image (svg (escape (Text.trim value)) (labelFill color)) := by
  rw [preview, if_pos rfl, render, Color.parse_eq_ok_iff.1 h]

theorem preview_of_error {value : Text} {e : LookupError} (h : Color.parse value = .error e) :
    preview value true = value := by
  cases hcolor : Color.ofTrimmed? (Text.trim value) with
  | none => rw [preview, if_pos rfl, render, hcolor]
  | some color =>
    rw [Color.parse_eq_ok_iff.2 hcolor] at h
    cases h

/-- A value that is no colour is shown as it is. A colour is shown as an image in Base64, whose
picture has the trimmed value as fill and as label. Escaped text holds no character of markup but
ampersands, each of which begins a reference, and it is decoded to what it was. -/
theorem preview_carries_value (value : Text) :
    (preview value true = value ↔ ∃ e, Color.parse value = .error e) ∧
    (∀ color, Color.parse value = .ok color → ∃ code picture,
      preview value true = "![](data:image/svg+xml;base64,".toList ++ code ++ [')'] ∧
      Base64.IsPadded code ∧
      (Base64.decode? code).bind Bytes.decode? = some picture ∧
      IsPictureOf picture (Text.trim value)) ∧
    ∀ t, (∀ c ∈ escape t, c ≠ '<' ∧ c ≠ '>' ∧ c ≠ '"' ∧ c ≠ '\'') ∧
      (∀ s r, escape t = s ++ '&' :: r → ∃ e ∈ references, e <+: '&' :: r) ∧
      decode (escape t) = t := by
  refine ⟨⟨?_, ?_⟩, ?_, ?_⟩
  · intro hsame
    cases hparse : Color.parse value with
    | error e => exact ⟨e, rfl⟩
    | ok color =>
      -- The value would be its own image, which is no colour.
      have hnone := ofTrimmed?_trim_image (svg (escape (Text.trim value)) (labelFill color))
      rw [← preview_of_ok hparse, hsame, Color.parse_eq_ok_iff.1 hparse] at hnone
      cases hnone
  · rintro ⟨e, herror⟩
    exact preview_of_error herror
  · intro color hok
    refine ⟨_, _, preview_of_ok hok, Base64.isPadded_encode _, ?_,
      isPictureOf_svg _ (not_mem_labelFill color)⟩
    rw [Base64.decode?_encode, Option.bind_some, Bytes.decode?_utf8]
  · intro t
    exact ⟨fun _ hc => ne_of_mem_escape hc, fun _ _ h => exists_reference h, decode_escape t⟩

/-- Three digits with blanks around, and an escaped tag. -/
theorem preview_carries_value_of_sample :
    (∃ color code picture, Color.parse " #369\n".toList = .ok color ∧
      preview " #369\n".toList true = "![](data:image/svg+xml;base64,".toList ++ code ++ [')'] ∧
      (Base64.decode? code).bind Bytes.decode? = some picture ∧
      IsPictureOf picture "#369".toList) ∧
    escape "<b>".toList = "&lt;b&gt;".toList ∧
    ∃ e ∈ references, e <+: "&gt;".toList := by
  have htrim : Text.trim " #369\n".toList = "#369".toList := by decide +kernel
  have hisColor : Color.isColor " #369\n".toList = true := by decide +kernel
  have htag : escape "<b>".toList = "&lt;b".toList ++ "&gt;".toList := by decide
  obtain ⟨color, hcolor⟩ := Option.isSome_iff_exists.1 hisColor
  have hok : Color.parse " #369\n".toList = .ok color := Color.parse_eq_ok_iff.2 hcolor
  obtain ⟨-, himage, hescape⟩ := preview_carries_value " #369\n".toList
  obtain ⟨code, picture, hshown, -, hread, hpicture⟩ := himage color hok
  rw [htrim] at hpicture
  exact ⟨⟨color, code, picture, hok, hshown, hread, hpicture⟩, htag,
    (hescape "<b>".toList).2.1 _ _ htag⟩

end Swatch

end CustomProps
