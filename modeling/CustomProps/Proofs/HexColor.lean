import CustomProps.Color.Literal
import Mathlib.Data.List.TakeWhile

/-!
Colours behind a number sign. The sign and the blanks around the digits stay where they are in lower
case, a hexadecimal digit keeps its number, and no other character turns into digits. So the colour
is that of the numbers of the digits as they are written, whatever the lower case of characters
outside ASCII is.
-/

namespace CustomProps

namespace Text

/-- A property of all ASCII characters, from their codes. -/
theorem forall_ascii {P : Char → Prop} (h : ∀ n < 128, P (Char.ofNat n)) (c : Char)
    (hc : c.toNat < 128) : P c := by
  have hcode := h c.toNat hc
  rwa [Char.ofNat_toNat] at hcode

theorem isBlank_toLower : ∀ c : Char, c.toNat < 128 → isBlank c.toLower = isBlank c :=
  forall_ascii (by decide +kernel)

theorem toLower_eq_mark : ∀ c : Char, c.toNat < 128 → c.toLower = '#' → c = '#' :=
  forall_ascii (by decide +kernel)

end Text

open Text

namespace Hex

/-- The digits in both cases. -/
def digits : Text := "0123456789abcdefABCDEF".toList

theorem lt_of_mem_digits {c : Char} (h : c ∈ digits) : c.toNat < 128 := by
  have hall : digits.all (fun c => decide (c.toNat < 128)) = true := by decide +kernel
  exact of_decide_eq_true (List.all_eq_true.1 hall c h)

theorem value?_toLower : ∀ c : Char, c.toNat < 128 → value? c.toLower = value? c :=
  forall_ascii (by decide +kernel)

theorem value?_of_le {c : Char} (h : 128 ≤ c.toNat) : value? c = none := by
  have hle : ∀ d : Char, d.toNat < 128 → ¬ c ≤ d := by
    intro d hd hcd
    exact absurd (Nat.le_trans h (show c.toNat ≤ d.toNat from hcd)) (by omega)
  have h9 := hle '9' (by decide)
  have hf := hle 'f' (by decide)
  have hF := hle 'F' (by decide)
  rw [value?, if_neg (fun h => h9 h.2), if_neg (fun h => hf h.2), if_neg (fun h => hF h.2)]

theorem isSome_value?_iff (c : Char) : (value? c).isSome = true ↔ c ∈ digits := by
  by_cases hc : c.toNat < 128
  · have hascii : ∀ c : Char, c.toNat < 128 → ((value? c).isSome = true ↔ c ∈ digits) :=
      forall_ascii (by decide +kernel)
    exact hascii c hc
  · rw [value?_of_le (Nat.le_of_not_lt hc)]
    exact iff_of_false (by simp) fun h => hc (lt_of_mem_digits h)

end Hex

/-- Which texts a lower-casing may give for the characters. An ASCII letter loses its case. Any
other character stays as it is, or is no blank and turns into characters that are no blanks, no
number signs and no hexadecimal digits. -/
structure IsLowering (lowering : Char → Text) : Prop where
  ascii : ∀ c : Char, c.toNat < 128 → lowering c = [c.toLower]
  other : ∀ c : Char, 128 ≤ c.toNat → lowering c = [c] ∨
    isBlank c = false ∧ lowering c ≠ [] ∧
      ∀ d ∈ lowering c, isBlank d = false ∧ d ≠ '#' ∧ d ∉ Hex.digits

/-- The Kelvin sign turns into a letter that is no digit. -/
theorem Color.isLowering_lowerChar : IsLowering fun c => [Color.lowerChar c] where
  ascii := by
    intro c hc
    have hne : c ≠ Char.ofNat 0x212A := by
      rintro rfl
      exact absurd hc (by decide)
    simp [Color.lowerChar, hne]
  other := by
    intro c hc
    by_cases hk : c = Char.ofNat 0x212A
    · right
      have hlower : Color.lowerChar (Char.ofNat 0x212A) = 'k' := by decide +kernel
      rw [hk, hlower]
      refine ⟨by decide +kernel, List.cons_ne_nil _ _, ?_⟩
      intro d hd
      rw [List.mem_singleton.1 hd]
      decide +kernel
    · left
      have hz : ¬ c.val ≤ 'Z'.val := by
        intro h
        exact absurd (Nat.le_trans hc (UInt32.le_iff_toNat_le.1 h)) (by decide)
      have hlower : c.toLower = c := dif_neg fun h => hz h.2
      simp [Color.lowerChar, hk, hlower]

namespace IsLowering

variable {lowering : Char → Text}

theorem of_isBlank (h : IsLowering lowering) {c : Char} (hb : isBlank c = true) :
    lowering c = [c] := by
  by_cases hc : c.toNat < 128
  · have hlower : ∀ c : Char, c.toNat < 128 → isBlank c = true → c.toLower = c :=
      forall_ascii (by decide +kernel)
    rw [h.ascii c hc, hlower c hc hb]
  · rcases h.other c (Nat.le_of_not_lt hc) with hsame | ⟨hnot, -⟩
    · exact hsame
    · rw [hb] at hnot
      cases hnot

theorem of_not_isBlank (h : IsLowering lowering) {c : Char} (hb : isBlank c = false) :
    lowering c ≠ [] ∧ ∀ d ∈ lowering c, isBlank d = false := by
  by_cases hc : c.toNat < 128
  · rw [h.ascii c hc]
    simp [isBlank_toLower c hc, hb]
  · rcases h.other c (Nat.le_of_not_lt hc) with hsame | ⟨-, hne, himage⟩
    · simp [hsame, hb]
    · exact ⟨hne, fun d hd => (himage d hd).1⟩

/-- The number sign is the image of no other character. -/
theorem eq_mark (h : IsLowering lowering) {c : Char} (hm : '#' ∈ lowering c) : c = '#' := by
  by_cases hc : c.toNat < 128
  · rw [h.ascii c hc, List.mem_singleton] at hm
    exact toLower_eq_mark c hc hm.symm
  · rcases h.other c (Nat.le_of_not_lt hc) with hsame | ⟨-, -, himage⟩
    · rw [hsame, List.mem_singleton] at hm
      exact hm.symm
    · exact absurd rfl (himage _ hm).2.1

/-- A character that is no digit does not turn into one. -/
theorem not_mem_digits (h : IsLowering lowering) {c : Char} (hd : c ∉ Hex.digits) :
    ∃ d ∈ lowering c, d ∉ Hex.digits := by
  by_cases hc : c.toNat < 128
  · refine ⟨c.toLower, by simp [h.ascii c hc], ?_⟩
    rwa [← Hex.isSome_value?_iff, Hex.value?_toLower c hc, Hex.isSome_value?_iff]
  · rcases h.other c (Nat.le_of_not_lt hc) with hsame | ⟨-, hne, himage⟩
    · exact ⟨c, by simp [hsame], hd⟩
    · obtain ⟨d, hmem⟩ := List.exists_mem_of_ne_nil _ hne
      exact ⟨d, hmem, (himage d hmem).2.2⟩

theorem dropWhile_flatMap {f : Char → Text} (hblank : ∀ c, isBlank c = true → f c = [c])
    (hother : ∀ c, isBlank c = false → f c ≠ [] ∧ ∀ d ∈ f c, isBlank d = false) (t : Text) :
    (t.flatMap f).dropWhile isBlank = (t.dropWhile isBlank).flatMap f := by
  induction t with
  | nil => rfl
  | cons c t ih =>
    cases hc : isBlank c with
    | true => simp [hblank c hc, hc, ih]
    | false =>
      obtain ⟨hne, hd⟩ := hother c hc
      obtain ⟨d, ds, hf⟩ := List.exists_cons_of_ne_nil hne
      have hdb : isBlank d = false := hd d (by simp [hf])
      simp [hc, hf, hdb]

/-- Blanks stay at the ends of a text. -/
theorem trim_flatMap (h : IsLowering lowering) (t : Text) :
    trim (t.flatMap lowering) = (trim t).flatMap lowering := by
  have hblank : ∀ c, isBlank c = true → lowering c = [c] := fun c hc => h.of_isBlank hc
  have hother : ∀ c, isBlank c = false → lowering c ≠ [] ∧ ∀ d ∈ lowering c, isBlank d = false :=
    fun c hc => h.of_not_isBlank hc
  have hstart := dropWhile_flatMap hblank hother t
  -- Seen from its end the text is the same kind of image, with each piece turned around.
  have hend := dropWhile_flatMap (f := List.reverse ∘ lowering)
    (fun c hc => by simp [hblank c hc]) (fun c hc => by simpa using hother c hc)
    (t.dropWhile isBlank).reverse
  have hback : (List.reverse ∘ (List.reverse ∘ lowering)) = lowering := by
    funext c
    simp
  rw [trim, trimStart, hstart, trimEnd, List.reverse_flatMap, hend, List.reverse_flatMap, hback]
  rfl

end IsLowering

namespace Color

/-! The colour of the numbers of the digits. -/

/-- The colour of the numbers of 3, 4, 6 or 8 digits. In the short forms each number counts twice,
as a digit of seventeens. -/
def ofNumbers? : List Nat → Option Color
  | [r, g, b] => some ⟨ofByte (17 * r), ofByte (17 * g), ofByte (17 * b), 1.0⟩
  | [r, g, b, a] => some ⟨ofByte (17 * r), ofByte (17 * g), ofByte (17 * b), ofByte (17 * a)⟩
  | [r, r', g, g', b, b'] =>
    some ⟨ofByte (16 * r + r'), ofByte (16 * g + g'), ofByte (16 * b + b'), 1.0⟩
  | [r, r', g, g', b, b', a, a'] =>
    some ⟨ofByte (16 * r + r'), ofByte (16 * g + g'), ofByte (16 * b + b'), ofByte (16 * a + a')⟩
  | _ => none

theorem channel?_eq (c d : Char) : channel? c d =
    (Hex.value? c).bind fun x => (Hex.value? d).map fun y => ofByte (16 * x + y) := by
  cases hc : Hex.value? c <;> cases hd : Hex.value? d <;> simp [channel?, Hex.nat?, hc, hd]

theorem channel?_self (c : Char) :
    channel? c c = (Hex.value? c).map fun x => ofByte (17 * x) := by
  rw [channel?_eq]
  cases Hex.value? c with
  | none => rfl
  | some x =>
    have h : 16 * x + x = 17 * x := by omega
    simp [h]

/-- Digits are read one by one, and then their numbers. -/
theorem ofHex?_eq : ∀ ds : Text, ofHex? ds = (ds.mapM Hex.value?).bind ofNumbers?
  | [] => rfl
  | [_, _, _] | [_, _, _, _] => by
    simp [ofHex?, channel?_self, ofNumbers?, Option.bind_assoc, Option.map_eq_bind]
  | [_, _, _, _, _, _] | [_, _, _, _, _, _, _, _] => by
    simp [ofHex?, channel?_eq, ofNumbers?, Option.bind_assoc, Option.map_eq_bind]
  | [_] | [_, _] | [_, _, _, _, _] | [_, _, _, _, _, _, _] => by
    simp [ofHex?, ofNumbers?, Option.bind_assoc]
  | _ :: _ :: _ :: _ :: _ :: _ :: _ :: _ :: _ :: _ => by
    simp [ofHex?, ofNumbers?, Option.bind_assoc]

theorem isSome_ofNumbers?_iff : ∀ ns : List Nat, (ofNumbers? ns).isSome = true ↔
    ns.length = 3 ∨ ns.length = 4 ∨ ns.length = 6 ∨ ns.length = 8
  | [] | [_] | [_, _] | [_, _, _] | [_, _, _, _] | [_, _, _, _, _] | [_, _, _, _, _, _]
  | [_, _, _, _, _, _, _] | [_, _, _, _, _, _, _, _]
  | _ :: _ :: _ :: _ :: _ :: _ :: _ :: _ :: _ :: _ => by simp [ofNumbers?]

/-- Texts of 3, 4, 6 or 8 hexadecimal digits. -/
def IsHexForm (ds : Text) : Prop :=
  (ds.length = 3 ∨ ds.length = 4 ∨ ds.length = 6 ∨ ds.length = 8) ∧ ∀ c ∈ ds, c ∈ Hex.digits

instance (ds : Text) : Decidable (IsHexForm ds) :=
  decidable_of_iff
    ((ds.length = 3 ∨ ds.length = 4 ∨ ds.length = 6 ∨ ds.length = 8) ∧
      ds.all (fun c => decide (c ∈ Hex.digits)) = true)
    (by simp [IsHexForm])

theorem exists_numbers {ds : Text} (h : ∀ c ∈ ds, c ∈ Hex.digits) :
    ∃ ns, ds.mapM Hex.value? = some ns ∧ ns.length = ds.length := by
  induction ds with
  | nil => exact ⟨[], rfl, rfl⟩
  | cons c ds ih =>
    obtain ⟨n, hn⟩ := Option.isSome_iff_exists.1 ((Hex.isSome_value?_iff c).2 (h c (by simp)))
    obtain ⟨ns, hns, hl⟩ := ih fun d hd => h d (by simp [hd])
    exact ⟨n :: ns, by simp [hn, hns], by simp [hl]⟩

theorem numbers_eq_none {ds : Text} (h : ∃ c ∈ ds, c ∉ Hex.digits) :
    ds.mapM Hex.value? = none := by
  induction ds with
  | nil => simp at h
  | cons c ds ih =>
    cases hc : Hex.value? c with
    | none => simp [hc]
    | some n =>
      have hmem : c ∈ Hex.digits := (Hex.isSome_value?_iff c).1 (by simp [hc])
      obtain ⟨d, hd, hnot⟩ := h
      have hds : d ∈ ds := by
        rcases List.mem_cons.1 hd with rfl | hds
        · exact absurd hmem hnot
        · exact hds
      simp [ih ⟨d, hds, hnot⟩]

/-- Exactly the texts of these forms are colours. -/
theorem isSome_ofHex?_iff (ds : Text) : (ofHex? ds).isSome = true ↔ IsHexForm ds := by
  rw [ofHex?_eq]
  by_cases h : ∀ c ∈ ds, c ∈ Hex.digits
  · obtain ⟨ns, hns, hl⟩ := exists_numbers h
    rw [hns, Option.bind_some, isSome_ofNumbers?_iff, hl]
    exact ⟨fun hlength => ⟨hlength, h⟩, fun hform => hform.1⟩
  · rw [numbers_eq_none (by simpa using h)]
    exact iff_of_false (by simp) fun hform => h hform.2

/-- Lower-casing changes no colour, and makes none. -/
theorem ofHex?_flatMap {lowering : Char → Text} (hl : IsLowering lowering) (ds : Text) :
    ofHex? (ds.flatMap lowering) = ofHex? ds := by
  rw [ofHex?_eq, ofHex?_eq]
  by_cases h : ∀ c ∈ ds, c ∈ Hex.digits
  · have hnumbers : (ds.flatMap lowering).mapM Hex.value? = ds.mapM Hex.value? := by
      induction ds with
      | nil => rfl
      | cons c ds ih =>
        have hc := Hex.lt_of_mem_digits (h c (by simp))
        rw [List.flatMap_cons, hl.ascii c hc, List.singleton_append, List.mapM_cons,
          List.mapM_cons, Hex.value?_toLower c hc, ih fun d hd => h d (by simp [hd])]
    rw [hnumbers]
  · obtain ⟨c, hc, hnot⟩ : ∃ c ∈ ds, c ∉ Hex.digits := by simpa using h
    obtain ⟨d, hd, hdnot⟩ := hl.not_mem_digits hnot
    rw [numbers_eq_none ⟨c, hc, hnot⟩,
      numbers_eq_none ⟨d, List.mem_flatMap.2 ⟨c, hc, hd⟩, hdnot⟩]

/-- The short forms are those with each digit written twice. -/
theorem ofHex?_doubled {ds : Text} (h : ds.length = 3 ∨ ds.length = 4) :
    ofHex? (ds.flatMap fun c => [c, c]) = ofHex? ds := by
  match ds, h with
  | [_, _, _], _ => rfl
  | [_, _, _, _], _ => rfl

/-- The largest digits are the whole of a channel. -/
theorem channel?_full : ∀ x ∈ ['f', 'F'], ∀ y ∈ ['f', 'F'], channel? x y = some 1.0 := by
  have hfull : ofByte 255 = 1.0 := by decide +kernel
  intro x hx y hy
  have hbyte : Hex.nat? [x, y] = some 255 := by
    obtain rfl | rfl : x = 'f' ∨ x = 'F' := by simpa using hx
    all_goals
      obtain rfl | rfl : y = 'f' ∨ y = 'F' := by simpa using hy
      all_goals rfl
  rw [channel?, hbyte, ← hfull]
  rfl

/-- A form without alpha is solid. -/
theorem ofHex?_solid {ds alpha : Text} (hf : ∀ c ∈ alpha, c ∈ ['f', 'F'])
    (h : ds.length = 3 ∧ alpha.length = 1 ∨ ds.length = 6 ∧ alpha.length = 2) :
    ofHex? (ds ++ alpha) = ofHex? ds := by
  match ds, alpha, h with
  | [_, _, _], [x], _ =>
    have hfull := channel?_full x (hf x (by simp)) x (hf x (by simp))
    simp [ofHex?, hfull]
  | [_, _, _, _, _, _], [x, y], _ =>
    have hfull := channel?_full x (hf x (by simp)) y (hf y (by simp))
    simp [ofHex?, hfull]

/-! Values with a number sign in front. -/

/-- A trimmed value that starts with a number sign, and what follows it without blanks around. -/
def HasDigits (value ds : Text) : Prop :=
  ∃ rest, trim value = '#' :: rest ∧ ds = trim rest

theorem toOption_parse (value : Text) : (parse value).toOption = ofTrimmed? (trim value) := by
  rw [parse]
  cases ofTrimmed? (trim value) <;> rfl

/-- Such a value is read by its digits as they are written. -/
theorem HasDigits.toOption_parse {value ds : Text} (h : HasDigits value ds) :
    (parse value).toOption = ofHex? ds := by
  obtain ⟨rest, hvalue, rfl⟩ := h
  have hlower : lower rest = rest.flatMap fun c => [lowerChar c] := List.map_eq_flatMap
  have hmark : lower ('#' :: rest) = '#' :: lower rest := rfl
  rw [Color.toOption_parse, hvalue, ofTrimmed?, hmark]
  have hafter : after? ['#'] ('#' :: lower rest) = some (lower rest) := by simp [after?]
  simp only [hafter]
  rw [hlower, isLowering_lowerChar.trim_flatMap, ofHex?_flatMap isLowering_lowerChar]

/-- The digits of a value with the same lower case are the same up to case. -/
theorem HasDigits.of_flatMap_eq {lowering : Char → Text} (hl : IsLowering lowering)
    {value other ds : Text} (h : HasDigits value ds)
    (he : other.flatMap lowering = value.flatMap lowering) :
    ∃ ds', HasDigits other ds' ∧ ds'.flatMap lowering = ds.flatMap lowering := by
  obtain ⟨rest, hvalue, rfl⟩ := h
  have hmark : lowering '#' = ['#'] := hl.ascii '#' (by decide)
  have htrim := hl.trim_flatMap other
  rw [he, hl.trim_flatMap, hvalue, List.flatMap_cons, hmark] at htrim
  cases hother : trim other with
  | nil =>
    rw [hother] at htrim
    cases htrim
  | cons c rest' =>
    rw [hother, List.flatMap_cons] at htrim
    have hne : lowering c ≠ [] := by
      cases hb : isBlank c with
      | true => simp [hl.of_isBlank hb]
      | false => exact (hl.of_not_isBlank hb).1
    obtain ⟨d, image, himage⟩ := List.exists_cons_of_ne_nil hne
    rw [himage] at htrim
    obtain rfl : '#' = d := (List.cons.inj htrim).1
    obtain rfl : c = '#' := hl.eq_mark (by simp [himage])
    rw [← himage, hmark] at htrim
    refine ⟨trim rest', ⟨rest', hother, rfl⟩, ?_⟩
    rw [← hl.trim_flatMap, ← hl.trim_flatMap, List.append_cancel_left htrim]

/-- A value behind a number sign is a colour exactly if it is 3, 4, 6 or 8 hexadecimal digits, with
blanks around. The case of its letters does not count, whichever lower case characters outside ASCII
have. A short form is the same colour as the form with each digit doubled, and a form without alpha
the same as the form with the largest alpha behind it. -/
theorem hexadecimal_values {value ds : Text} (h : HasDigits value ds) :
    ((∃ color, parse value = .ok color) ↔ IsHexForm ds) ∧
    (∀ lowering, IsLowering lowering → ∀ other : Text,
      other.flatMap lowering = value.flatMap lowering →
        (parse other).toOption = (parse value).toOption) ∧
    (ds.length = 3 ∨ ds.length = 4 →
      ∀ other, HasDigits other (ds.flatMap fun c => [c, c]) →
        (parse other).toOption = (parse value).toOption) ∧
    ∀ alpha : Text, (∀ c ∈ alpha, c ∈ ['f', 'F']) →
      ds.length = 3 ∧ alpha.length = 1 ∨ ds.length = 6 ∧ alpha.length = 2 →
        ∀ other, HasDigits other (ds ++ alpha) →
          (parse other).toOption = (parse value).toOption := by
  refine ⟨?_, ?_, ?_, ?_⟩
  · rw [← isSome_ofHex?_iff, ← h.toOption_parse]
    cases parse value <;> simp [Except.toOption]
  · intro lowering hl other he
    obtain ⟨ds', hother, hds⟩ := h.of_flatMap_eq hl he
    rw [hother.toOption_parse, h.toOption_parse, ← ofHex?_flatMap hl ds', hds, ofHex?_flatMap hl]
  · intro hlength other hother
    rw [hother.toOption_parse, h.toOption_parse, ofHex?_doubled hlength]
  · intro alpha hf hlength other hother
    rw [hother.toOption_parse, h.toOption_parse, ofHex?_solid hf hlength]

/-- Three digits of both cases with blanks around, and the other ways to write them. -/
theorem hexadecimal_values_of_sample :
    HasDigits " # aBC\n".toList "aBC".toList ∧ HasDigits "#aaBBCC".toList "aaBBCC".toList ∧
    HasDigits "#aBCf".toList "aBCf".toList ∧
    lower " # AbC\n".toList = lower " # aBC\n".toList ∧
    ∃ color, parse " # aBC\n".toList = .ok color ∧
      (parse " # AbC\n".toList).toOption = some color ∧
      (parse "#aaBBCC".toList).toOption = some color ∧
      (parse "#aBCf".toList).toOption = some color := by
  have h : HasDigits " # aBC\n".toList "aBC".toList :=
    ⟨" aBC".toList, by decide +kernel, by decide +kernel⟩
  have hdoubled : HasDigits "#aaBBCC".toList "aaBBCC".toList :=
    ⟨"aaBBCC".toList, by decide +kernel, by decide +kernel⟩
  have halpha : HasDigits "#aBCf".toList "aBCf".toList :=
    ⟨"aBCf".toList, by decide +kernel, by decide +kernel⟩
  have hlower : lower " # AbC\n".toList = lower " # aBC\n".toList := by decide +kernel
  obtain ⟨hform, hcase, hshort, hsolid⟩ := hexadecimal_values h
  obtain ⟨color, hcolor⟩ := hform.2 (by decide +kernel)
  have hsame : (parse " # aBC\n".toList).toOption = some color := by rw [hcolor]; rfl
  rw [lower, lower, List.map_eq_flatMap, List.map_eq_flatMap] at hlower
  refine ⟨h, hdoubled, halpha, by decide +kernel, color, hcolor, ?_, ?_, ?_⟩
  · rw [hcase _ isLowering_lowerChar _ hlower, hsame]
  · rw [hshort (.inl rfl) _ hdoubled, hsame]
  · rw [hsolid ['f'] (by simp) (.inl ⟨rfl, rfl⟩) _ halpha, hsame]

end Color

end CustomProps
